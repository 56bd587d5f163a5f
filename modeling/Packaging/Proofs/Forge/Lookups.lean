import Packaging.Proofs.Forge.References
import Packaging.Proofs.Forge.Responses
import Mathlib.Data.List.Basic

/-!
# Lookups, one by one, up to the first that fails

A matrix is made by a fixed sequence of lookups: the release, then the reference of each version. A
session goes through them in order and stops at the first that has no answer.

* `Forge.Follows`: a session makes some lookups in order; the lookups of a sequence of sessions are
  those of its parts (`Follows.bind`, `Follows.mapM`).
* `generate_follows`: what `Plan.generate` looks up on any forge.
* `generate_of_answers`: forges with the same answers give the same matrix.
* `generate_looks_up`: the requests to GitHub, and the forge that holds what a table of responses
  says.
-/

namespace Packaging

open Packaging.Action

/-- Why a reply is no answer, if it is none. -/
def Reply.fault? {α : Type} (reply : Reply α) : Option ForgeError :=
  match reply.outcome with
  | .ok _ => none
  | .error e => some e

namespace Forge

/-! ## Lookups of a forge -/

/-- Why a forge has no answer to a lookup, if it has none. -/
def fault? (forge : Forge) : Lookup → Option ForgeError
  | .assets => forge.releaseAssets.fault?
  | .ref name => (forge.resolveRef name).fault?

/-- The requests that are answered for a lookup. -/
def requestsFor (forge : Forge) : Lookup → List Http.Request
  | .assets => forge.releaseAssets.requests
  | .ref name => (forge.resolveRef name).requests

/-- The lookups up to the first without an answer, that one included. -/
def asked (forge : Forge) : List Lookup → List Lookup
  | [] => []
  | l :: ls => if (forge.fault? l).isSome then [l] else l :: forge.asked ls

variable {forge : Forge} {l : Lookup} {ls ls' : List Lookup}

theorem asked_append_of_fault {e : ForgeError} (h : ls.findSome? forge.fault? = some e)
    (ls' : List Lookup) : forge.asked (ls ++ ls') = forge.asked ls := by
  induction ls with
  | nil => cases h
  | cons l ls ih =>
    rw [List.findSome?_cons] at h
    rw [List.cons_append, asked, asked]
    cases hl : forge.fault? l with
    | some e' => rfl
    | none =>
      rw [hl] at h
      rw [ih h]

/-- Lookups that all have answers are all made. -/
theorem asked_append_of_answers (h : ls.findSome? forge.fault? = none) (ls' : List Lookup) :
    forge.asked (ls ++ ls') = ls ++ forge.asked ls' := by
  induction ls with
  | nil => rfl
  | cons l ls ih =>
    rw [List.findSome?_cons] at h
    rw [List.cons_append, List.cons_append, asked]
    cases hl : forge.fault? l with
    | some e' => rw [hl] at h; cases h
    | none =>
      rw [hl] at h
      rw [ih h]
      rfl

/-- What is asked depends on which lookups have answers. -/
theorem asked_congr {forge' : Forge}
    (h : ∀ l ∈ ls, (forge'.fault? l).isSome = (forge.fault? l).isSome) :
    forge'.asked ls = forge.asked ls := by
  induction ls with
  | nil => rfl
  | cons l ls ih =>
    unfold asked
    rw [h l List.mem_cons_self, ih fun l' hl' => h l' (List.mem_cons_of_mem _ hl')]

/-! ## Sessions that look things up in order -/

/-- A session makes some lookups in order, up to the first without an answer, and fails with that
one's fault. -/
structure Follows {α : Type} (forge : Forge) (ls : List Lookup) (x : Session α) : Prop where
  lookups : ∀ j, (x j).2.lookups = j.lookups ++ forge.asked ls
  requests : ∀ j, (x j).2.requests = j.requests ++ (forge.asked ls).flatMap forge.requestsFor
  fault : ∀ e, ls.findSome? forge.fault? = some e → ∀ j, (x j).1 = .error e
  answer : ls.findSome? forge.fault? = none → ∀ j, ∃ a, (x j).1 = .ok a

section Follows

variable {α β : Type} {x : Session α} {f : α → Session β}

theorem follows_pure (a : α) : Follows forge [] (pure a : Session α) where
  lookups _ := (List.append_nil _).symm
  requests _ := (List.append_nil _).symm
  fault _ h := nomatch h
  answer _ _ := ⟨a, rfl⟩

theorem follows_log (message : String) : Follows forge [] (Session.log message) where
  lookups _ := (List.append_nil _).symm
  requests _ := (List.append_nil _).symm
  fault _ h := nomatch h
  answer _ _ := ⟨(), rfl⟩

theorem follows_ask {reply : Reply α} (hfault : forge.fault? l = reply.fault?)
    (hrequests : forge.requestsFor l = reply.requests) :
    Follows forge [l] (Session.ask l reply) := by
  have hasked : forge.asked [l] = [l] := by
    unfold asked asked
    split <;> rfl
  have hfirst : [l].findSome? forge.fault? = reply.fault? := by
    rw [← hfault, List.findSome?_cons]
    cases forge.fault? l <;> rfl
  constructor
  · intro j
    rw [hasked]
    unfold Session.ask
    cases reply.outcome <;> rfl
  · intro j
    rw [hasked, List.flatMap_singleton, hrequests]
    exact Session.ask_requests l reply j
  · intro e he j
    rw [hfirst] at he
    unfold Reply.fault? at he
    unfold Session.ask
    cases ho : reply.outcome with
    | ok a => rw [ho] at he; cases he
    | error e' => rw [ho] at he; cases he; rfl
  · intro hnone j
    rw [hfirst] at hnone
    unfold Reply.fault? at hnone
    unfold Session.ask
    cases ho : reply.outcome with
    | ok a => exact ⟨a, rfl⟩
    | error e' => rw [ho] at hnone; cases hnone

/-- The second of two sessions is reached only where the first has all its answers. -/
theorem Follows.bind {all : List Lookup} (hx : Follows forge ls x)
    (hf : ∀ a, Follows forge ls' (f a)) (hall : ls ++ ls' = all) :
    Follows forge all (x >>= f) := by
  subst hall
  cases hfirst : ls.findSome? forge.fault? with
  | some e =>
    have hrun (j : Journal) : (x >>= f) j = (.error e, (x j).2) :=
      bind_of_error (Prod.ext (hx.fault e hfirst j) rfl)
    have hasked := asked_append_of_fault hfirst ls'
    constructor
    · intro j
      rw [hrun, hasked]
      exact hx.lookups j
    · intro j
      rw [hrun, hasked]
      exact hx.requests j
    · intro e' he' j
      rw [List.findSome?_append, hfirst] at he'
      cases he'
      rw [hrun]
    · intro hnone
      rw [List.findSome?_append, hfirst] at hnone
      cases hnone
  | none =>
    have hrun (j : Journal) : ∃ a, (x >>= f) j = f a (x j).2 := by
      obtain ⟨a, ha⟩ := hx.answer hfirst j
      exact ⟨a, bind_of_ok (Prod.ext ha rfl)⟩
    have hasked := asked_append_of_answers hfirst ls'
    have hx' := asked_append_of_answers hfirst []
    rw [List.append_nil] at hx'
    constructor
    · intro j
      obtain ⟨a, ha⟩ := hrun j
      rw [ha, (hf a).lookups, hx.lookups, hasked, hx', asked, List.append_nil, List.append_assoc]
    · intro j
      obtain ⟨a, ha⟩ := hrun j
      rw [ha, (hf a).requests, hx.requests, hasked, hx', asked, List.append_nil, List.append_assoc,
        List.flatMap_append]
    · intro e he j
      rw [List.findSome?_append, hfirst] at he
      obtain ⟨a, ha⟩ := hrun j
      rw [ha]
      exact (hf a).fault e he _
    · intro hnone j
      rw [List.findSome?_append, hfirst] at hnone
      obtain ⟨a, ha⟩ := hrun j
      rw [ha]
      exact (hf a).answer hnone _

theorem Follows.mapM {as : List α} {g : α → Session β} {look : α → List Lookup}
    (h : ∀ a, Follows forge (look a) (g a)) : Follows forge (as.flatMap look) (as.mapM g) := by
  induction as with
  | nil => exact follows_pure []
  | cons a as ih =>
    rw [List.mapM_cons, List.flatMap_cons]
    refine (h a).bind (fun b => ?_) rfl
    exact ih.bind (fun bs => follows_pure (b :: bs)) (List.append_nil _)

end Follows

end Forge

/-! ## The lookups of a matrix -/

namespace Plan

open Forge

/-- What is looked up for the matrix of a plan. -/
def lookups (p : Plan) : List Lookup := .assets :: p.versions.map fun v => .ref (gitRef v)

variable {p : Plan} {forge : Forge}

theorem resolve_follows (published : Assets) (v : String) :
    Follows forge [.ref (gitRef v)] (p.resolve forge published v) := by
  unfold resolve
  refine (follows_ask rfl rfl).bind (fun commit => ?_) rfl
  exact (follows_log _).bind (fun _ => follows_pure _) rfl

/-- **A matrix is made by looking up the release and then each version**, in this order. -/
theorem generate_follows (p : Plan) (forge : Forge) :
    Follows forge p.lookups (p.generate forge) := by
  have hversions (published : Assets) : Follows forge (p.versions.map fun v => .ref (gitRef v))
      (p.versions.mapM (p.resolve forge published)) := by
    rw [List.map_eq_flatMap]
    exact Follows.mapM fun v => resolve_follows published v
  unfold generate
  refine (follows_ask rfl rfl).bind (fun published => ?_) rfl
  refine (follows_log _).bind (fun _ => ?_) rfl
  refine (hversions published).bind (fun found => ?_) (List.append_nil _)
  exact (follows_log _).bind (fun _ => follows_pure _) rfl

end Plan

/-! ## Forges with the same answers -/

/-- Two journals tell the same, but for the requests. -/
def Journal.Tells (j j' : Journal) : Prop := j.log = j'.log ∧ j.lookups = j'.lookups

theorem Session.log_agree (message : String) :
    Agree Journal.Tells (Session.log message) (Session.log message) :=
  fun _ _ h => ⟨rfl, congrArg (· ++ [message]) h.1, h.2⟩

theorem Session.ask_agree {α : Type} {reply reply' : Reply α} (l : Lookup)
    (h : reply.outcome = reply'.outcome) :
    Agree Journal.Tells (Session.ask l reply) (Session.ask l reply') := by
  intro j j' hj
  unfold Session.ask
  rw [h]
  cases reply'.outcome with
  | ok a => exact ⟨rfl, hj.1, congrArg (· ++ [l]) hj.2⟩
  | error e => exact ⟨rfl, hj.1, congrArg (· ++ [l]) hj.2⟩

/-- Forges with the same answers give the same matrix, with the same lookups and messages. -/
theorem Plan.generate_agree {forge forge' : Forge} (p : Plan)
    (hassets : forge.releaseAssets.outcome = forge'.releaseAssets.outcome)
    (hrefs : ∀ name, (forge.resolveRef name).outcome = (forge'.resolveRef name).outcome) :
    Agree Journal.Tells (p.generate forge) (p.generate forge') := by
  unfold Plan.generate
  refine (Session.ask_agree .assets hassets).bind fun published => ?_
  refine (Session.log_agree _).bind fun _ => ?_
  refine Agree.bind (Agree.mapM fun v _ => ?_) fun found => ?_
  · unfold Plan.resolve
    refine (Session.ask_agree _ (hrefs _)).bind fun commit => ?_
    exact (Session.log_agree _).bind fun _ => agree_pure _
  · exact (Session.log_agree _).bind fun _ => agree_pure _

/-! ## GitHub -/

namespace GitHub

open Document Http

variable {table : List (String × Response)} {client : Client} {api address : String} {p : Plan}

/-- The address of what a plan looks up. -/
def addressOf (api : String) (p : Plan) : Lookup → String
  | .assets => releaseAddress api p.releaseRepository p.releaseTag
  | .ref name => refAddress api p.sourceRepository name

/-- The request for what an address leads to, if one can be made. -/
def requestTo? (client : Client) (address : String) : Option Request :=
  (Url.ofText? address).map (requestFor client)

/-- The response of a table to the request for a target. -/
def entryOf (table : List (String × Response)) (target : String) : Response :=
  match table.lookup target with
  | some response => if isBodiless response.status then { response with body := [] } else response
  | none => ⟨404, []⟩

/-- The answer that a table of responses holds under an address. -/
def decoded {α : Type} (table : List (String × Response)) (read : Json.Placed → Except Fault α)
    (address : String) : Except ForgeError α :=
  match Url.ofText? address with
  | none => .error (.badAddress ((Address.ofText? address).map Address.text))
  | some url =>
    let response := entryOf table url.target
    if isFailure response.status then .error (.status response.status url)
    else (Json.readBytes read response.body).mapError fun _ => .undecodable

theorem ofTable_apply (request : Request) :
    Transport.ofTable table request = some (entryOf table request.url.target) := by
  unfold Transport.ofTable entryOf
  cases table.lookup request.url.target <;> rfl

section Fetch

variable {α : Type} {read : Json.Placed → Except Fault α}

/-- One request is sent to an address, and none if none can be made. -/
theorem requests_fetch_ofTable : (fetch (.ofTable table) client read address).requests =
    (requestTo? client address).toList := by
  unfold fetch requestTo?
  cases Url.ofText? address with
  | none => rfl
  | some url => simp only [ofTable_apply, Option.map_some, Option.toList_some]

theorem outcome_fetch_ofTable : (fetch (.ofTable table) client read address).outcome =
    decoded table read address := by
  unfold fetch decoded
  cases Url.ofText? address with
  | none => rfl
  | some url =>
    simp only [ofTable_apply, requestFor_url]
    split
    · rfl
    · cases Json.readBytes read (entryOf table url.target).body <;> rfl

end Fetch

/-- The forge that holds what a table of responses says, and asks no one for it. -/
def heldBy (table : List (String × Response)) (api : String) (p : Plan) : Forge where
  key := "github:" ++ base api
  releaseAssets :=
    { outcome := decoded table (fun x => Assets.ofList <$> readAssets x)
        (releaseAddress api p.releaseRepository p.releaseTag) }
  resolveRef name := { outcome := decoded table readCommit (refAddress api p.sourceRepository name) }

theorem requestsFor_forge (l : Lookup) : (forge (.ofTable table) client api p).requestsFor l =
    (requestTo? client (addressOf api p l)).toList := by
  cases l with
  | assets => rw [Forge.requestsFor, releaseAssets_forge, requests_fetch_ofTable, addressOf]
  | ref name => rw [Forge.requestsFor, resolveRef_forge, requests_fetch_ofTable, addressOf]

theorem outcome_releaseAssets_heldBy : (heldBy table api p).releaseAssets.outcome =
    (forge (.ofTable table) client api p).releaseAssets.outcome := by
  rw [releaseAssets_forge, outcome_fetch_ofTable, heldBy]

theorem outcome_resolveRef_heldBy (name : String) :
    ((heldBy table api p).resolveRef name).outcome =
      ((forge (.ofTable table) client api p).resolveRef name).outcome := by
  rw [resolveRef_forge, outcome_fetch_ofTable, heldBy]

/-- A request is made for the address that is read, and none is made for what is no address or a
refused one. -/
theorem requestTo?_cases (client : Client) (address : String) :
    (∀ request, requestTo? client address = some request →
      Address.ofText? address = some (.url request.url)) ∧
    (requestTo? client address = none ↔ ∀ a, Address.ofText? address = some a → a.Refused) := by
  constructor
  · intro request h
    obtain ⟨url, hurl, rfl⟩ := Option.map_eq_some_iff.1 h
    exact (Url.ofText?_eq_some_iff.1 hurl).1
  · rw [requestTo?, Option.map_eq_none_iff, Url.ofText?_eq_none_iff]

example : (["http://a:65536", "ftp://x", "http://a\x7b", "http://a"].map fun address =>
    ((Address.ofText? address).map Address.text, (requestTo? ⟨none⟩ address).isSome)) =
      [(none, false), (some "ftp://x/", false), (some "http://a\x7b/", false),
        (some "http://a/", true)] := by
  decide +kernel

/-- A lookup that sends nothing fails, with its address if it has one. -/
theorem fault?_of_requestTo?_eq_none {l : Lookup}
    (h : requestTo? client (addressOf api p l) = none) :
    (forge (.ofTable table) client api p).fault? l =
      some (.badAddress ((Address.ofText? (addressOf api p l)).map Address.text)) := by
  have hurl : Url.ofText? (addressOf api p l) = none := Option.map_eq_none_iff.1 h
  cases l with
  | assets =>
    rw [addressOf] at hurl
    rw [Forge.fault?, Reply.fault?, releaseAssets_forge, outcome_fetch_ofTable, decoded, hurl,
      addressOf]
  | ref name =>
    rw [addressOf] at hurl
    rw [Forge.fault?, Reply.fault?, resolveRef_forge, outcome_fetch_ofTable, decoded, hurl,
      addressOf]

/-- What is sent while a matrix is made. -/
theorem requests_generate (table : List (String × Response)) (client : Client) (api : String)
    (p : Plan) (j : Journal) :
    (p.generate (forge (.ofTable table) client api p) j).2.requests = j.requests ++
      ((forge (.ofTable table) client api p).asked p.lookups).filterMap
        fun l => requestTo? client (addressOf api p l) := by
  rw [(p.generate_follows _).requests, List.filterMap_eq_flatMap_toList,
    show (forge (.ofTable table) client api p).requestsFor = _ from funext requestsFor_forge]

/-- The forge that holds the answers of a table gives the matrix that is made by asking for them. -/
theorem generate_heldBy (table : List (String × Response)) (client : Client) (api : String)
    (p : Plan) :
    Agree Journal.Tells (p.generate (heldBy table api p))
      (p.generate (forge (.ofTable table) client api p)) :=
  p.generate_agree outcome_releaseAssets_heldBy outcome_resolveRef_heldBy

/-- **The lookups of a matrix at GitHub**: the release and then the reference of each version, up to
the first without an answer, whose fault is the result. Each sends one request, to the address that
is read of its text. It sends none and fails, with the address if there is one, where the text is no
address at all, or one that is refused: with a scheme other than `http` or `https`, with a host that
requests do not take, or longer than 65534 bytes. Platforms and the names of published files have no
part in what is sent. The result, the lookups and the messages are those of the forge that holds the
answers of the same table. Responses lead on to no other place, so this is not about services that
say where something has moved to. -/
theorem generate_looks_up (table : List (String × Response)) (client : Client) (api : String)
    (p : Plan) (j : Journal) :
    let github := forge (.ofTable table) client api p
    let run := p.generate github j
    run.2.lookups = j.lookups ++ github.asked p.lookups ∧
    run.2.requests = j.requests ++
      (github.asked p.lookups).filterMap (fun l => requestTo? client (addressOf api p l)) ∧
    (∀ l, (∀ request, requestTo? client (addressOf api p l) = some request →
        Address.ofText? (addressOf api p l) = some (.url request.url)) ∧
      (requestTo? client (addressOf api p l) = none ↔
        ∀ a, Address.ofText? (addressOf api p l) = some a → a.Refused) ∧
      (requestTo? client (addressOf api p l) = none → github.fault? l =
        some (.badAddress ((Address.ofText? (addressOf api p l)).map Address.text)))) ∧
    (∀ e, p.lookups.findSome? github.fault? = some e → run.1 = .error e) ∧
    (p.lookups.findSome? github.fault? = none → ∃ builds, run.1 = .ok builds) ∧
    (∀ (platforms : List Platform) (table' : List (String × Response)),
      let plan := { p with platforms }
      let github' := forge (.ofTable table') client api plan
      (∀ l ∈ p.lookups, (github'.fault? l).isSome = (github.fault? l).isSome) →
      (plan.generate github' j).2.requests = run.2.requests) ∧
    (p.generate (heldBy table api p) j).1 = run.1 ∧
    (p.generate (heldBy table api p) j).2.Tells run.2 := by
  dsimp only
  have hrun := p.generate_follows (forge (.ofTable table) client api p)
  have haddress (l : Lookup) := requestTo?_cases client (addressOf api p l)
  refine ⟨hrun.lookups j, requests_generate table client api p j,
    fun l => ⟨(haddress l).1, (haddress l).2, fun h => fault?_of_requestTo?_eq_none h⟩,
    fun e he => hrun.fault e he j, fun h => hrun.answer h j, ?_,
    generate_heldBy table client api p j j ⟨rfl, rfl⟩⟩
  intro platforms table' hsame
  rw [requests_generate, requests_generate, ← Forge.asked_congr hsame]
  rfl

/-! ### What is sent for two tables -/

/-- A service that knows a release with some files, and one branch. -/
def releasedTable (files : String) : List (String × Response) :=
  [("/repos/o/r/releases/tags/t",
      ⟨200, Text.bytesOf ("\x7b\"assets\": [" ++ files ++ "]\x7d")⟩),
    ("/repos/o/s/git/ref/heads/main",
      ⟨200, Text.bytesOf "\x7b\"object\": \x7b\"sha\": \"0123456789\"\x7d\x7d"⟩)]

/-- A file of a release. -/
def releasedFile : String := "\x7b\"name\": \"x\"\x7d"

theorem faults_released {files : String} (hfiles : files ∈ ["", releasedFile]) :
    ∀ l ∈ movedPlan.lookups,
      (forge (.ofTable (releasedTable files)) ⟨none⟩ defaultApi movedPlan).fault? l = none := by
  revert files
  decide +kernel

/-- A release without files and one with a file are asked for alike, whatever the platforms, and
what is not found ends the run. -/
theorem generate_looks_up_released :
    (∃ builds, (movedPlan.generate (forge (.ofTable (releasedTable "")) ⟨none⟩ defaultApi movedPlan)
      {}).1 = .ok builds) ∧
    (Plan.generate { movedPlan with platforms := [] }
      (forge (.ofTable (releasedTable releasedFile)) ⟨none⟩ defaultApi
        { movedPlan with platforms := [] }) {}).2.requests =
      (movedPlan.generate (forge (.ofTable (releasedTable "")) ⟨none⟩ defaultApi movedPlan)
        {}).2.requests ∧
    ∃ e, (movedPlan.generate (forge (.ofTable []) ⟨none⟩ defaultApi movedPlan) {}).1 = .error e := by
  obtain ⟨-, -, -, -, hanswer, hsame, -⟩ :=
    generate_looks_up (releasedTable "") ⟨none⟩ defaultApi movedPlan {}
  obtain ⟨-, -, -, hfault, -⟩ := generate_looks_up [] ⟨none⟩ defaultApi movedPlan {}
  have hnone := faults_released (show "" ∈ _ by decide)
  have hnone' := faults_released (show releasedFile ∈ _ by decide)
  refine ⟨hanswer (List.findSome?_eq_none_iff.2 hnone), ?_, ?_⟩
  · have hsent := hsame [] (releasedTable releasedFile) (fun l hl => by
      rw [hnone l hl]
      exact congrArg Option.isSome (hnone' l hl))
    dsimp only
    exact hsent
  · have hsome : (movedPlan.lookups.findSome?
        (forge (.ofTable []) ⟨none⟩ defaultApi movedPlan).fault?).isSome = true := by
      decide +kernel
    obtain ⟨e, he⟩ := Option.isSome_iff_exists.1 hsome
    exact ⟨e, hfault e he⟩

/-! ### A tag that is too long -/

/-- The default plan with another tag. -/
def tagged (tag : String) : Plan := { defaultPlan with releaseTag := tag }

/-- The path of the release of a tag, after its first slash. -/
def tagPath (tag : List Char) : List Char :=
  "repos/TileDB-Inc/tiledb-rs/releases/tags".toList ++ '/' :: tag

theorem addressOf_tagged (tag : String) : addressOf defaultApi (tagged tag) .assets =
    String.ofList (Url.schemeText true ++ "api.github.com".toList ++ '/' :: tagPath tag.toList) := by
  have hpath : "/repos/".toList ++ ("TileDB-Inc/tiledb-rs".toList ++ ("/releases/tags/".toList ++
      tag.toList)) = '/' :: tagPath tag.toList := rfl
  rw [← String.toList_inj, String.toList_ofList, ← base_defaultApi, ← hpath]
  simp only [addressOf, releaseAddress, String.toList_append, List.append_assoc]
  rfl

theorem literal_tagPath {tag : List Char} (h : Url.Literal tag) : Url.Literal (tagPath tag) := by
  refine (Url.literal_append_slash_iff ?_ ⟨?_, ?_, ?_⟩).2 h
  · exact Url.forall_mem_of_all (by decide)
  · decide
  · exact Url.unescaped_of_notMem (by decide)
  · decide

/-- The release of a literal tag has an address, which is longer than the tag. -/
theorem exists_address_tagged {tag : String} (h : Url.Literal tag.toList) : ∃ u : Url,
    Address.ofText? (addressOf defaultApi (tagged tag) .assets) = some (.url u) ∧
      tag.toList.length < u.text.utf8ByteSize := by
  have hhost : (Url.authority? (Url.webScheme true).port "api.github.com".toList).isSome := by
    decide +kernel
  rw [addressOf_tagged]
  obtain ⟨u, hu⟩ := Url.exists_address isAuthority_defaultApi hhost (tagPath tag.toList)
  have hsize := Url.length_lt_size_of_literal isAuthority_defaultApi hu (literal_tagPath h)
  have htag : tag.toList <:+ tagPath tag.toList :=
    (List.suffix_cons '/' tag.toList).trans (List.suffix_append _ _)
  exact ⟨u, hu, Nat.lt_of_le_of_lt htag.length_le hsize⟩

theorem literal_replicate (n : Nat) (hn : 2 < n) : Url.Literal (List.replicate n 'a') := by
  have hmem {c : Char} (hc : c ∈ List.replicate n 'a') : c = 'a' := List.eq_of_mem_replicate hc
  have hsplit : Text.splitAtMarks (· = '/') (List.replicate n 'a') = [List.replicate n 'a'] := by
    refine Text.splitAtMarks_of_forall fun c hc => ?_
    rw [hmem hc]
    decide
  refine ⟨⟨fun h => absurd (hmem h) (by decide), Url.unescaped_of_notMem fun h => ?_, ?_⟩, ?_, ?_⟩
  · exact absurd (hmem h) (by decide)
  · intro s hs
    rw [hsplit, List.mem_singleton] at hs
    subst hs
    have hne {ds : List Char} (hds : ds.length ≤ 2) : List.replicate n 'a' ≠ ds := by
      intro h
      rw [← h, List.length_replicate] at hds
      omega
    exact ⟨hne (by decide), hne (by decide)⟩
  · intro c hc
    rw [hmem hc]
    decide
  · intro c hc
    rw [hmem (List.mem_of_getLast? hc)]
    decide

/-- A tag as long as an address may be. -/
def longTag : String := String.ofList (List.replicate Url.longest 'a')

/-- The default plan with this tag. -/
def longTagPlan : Plan := tagged longTag

/-- A usable plan may be refused before anything is sent: the address of its release is too long. -/
theorem long_tag_sends_nothing :
    longTagPlan.validate = .ok () ∧
      (longTagPlan.generate (forge (.ofTable []) ⟨none⟩ defaultApi longTagPlan) {}).2.requests = [] ∧
      ∃ u : Url, Url.longest < u.text.utf8ByteSize ∧
        (longTagPlan.generate (forge (.ofTable []) ⟨none⟩ defaultApi longTagPlan) {}).1 =
          .error (.badAddress (some u.text)) := by
  have htag : longTag.toList = List.replicate Url.longest 'a' := String.toList_ofList
  obtain ⟨u, hu, hlong⟩ := exists_address_tagged (htag ▸ literal_replicate _ (by decide))
  rw [htag, List.length_replicate] at hlong
  rw [← longTagPlan] at hu
  have hno : requestTo? ⟨none⟩ (addressOf defaultApi longTagPlan .assets) = none := by
    refine (requestTo?_cases _ _).2.2 fun a ha => ?_
    rw [hu, Option.some.injEq] at ha
    exact ha ▸ .long hlong
  have hfault : (forge (.ofTable []) ⟨none⟩ defaultApi longTagPlan).fault? .assets =
      some (.badAddress (some u.text)) := by
    rw [fault?_of_requestTo?_eq_none hno, hu]
    rfl
  have hrun := longTagPlan.generate_follows (forge (.ofTable []) ⟨none⟩ defaultApi longTagPlan)
  have hfirst : longTagPlan.lookups.findSome?
      (forge (.ofTable []) ⟨none⟩ defaultApi longTagPlan).fault? =
        some (.badAddress (some u.text)) := by
    rw [Plan.lookups, List.findSome?_cons, hfault]
  refine ⟨rfl, ?_, u, hlong, hrun.fault _ hfirst {}⟩
  rw [requests_generate, Plan.lookups, Forge.asked, hfault]
  simp [hno]

end GitHub

end Packaging
