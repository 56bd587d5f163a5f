import Packaging.Forge.GitHub
import Packaging.Proofs.Matrix
import Packaging.Proofs.Url.Addresses

/-!
# What is asked for when a version is resolved

* `resolve_requests`: resolving a version sends what the forge sends for its reference.
* `fetch_requests`: what is fetched is what the address leads to.
* `refPath_literal_iff`: a version's reference has a literal path where the version is literal.
* `sent_asks_iff`: the request for a version asks for its reference exactly when the version is
  literal, and literal versions have requests of their own.
-/

namespace Packaging

open Text

/-! ## Requests of a session -/

theorem Session.ask_requests {α : Type} (lookup : Lookup) (reply : Reply α) (j : Journal) :
    (Session.ask lookup reply j).2.requests = j.requests ++ reply.requests := by
  rw [Session.ask]
  cases reply.outcome <;> rfl

namespace Plan

variable {p : Plan} {forge : Forge} {published : Assets} {v : String} {j : Journal}

/-- A version is looked up once, whatever comes of it. -/
theorem resolve_requests : (p.resolve forge published v j).2.requests =
    j.requests ++ (forge.resolveRef (gitRef v)).requests := by
  rw [resolve, ← Session.ask_requests (.ref (gitRef v))]
  rcases h : Session.ask (.ref (gitRef v)) (forge.resolveRef (gitRef v)) j with ⟨_ | commit, j'⟩
  · rw [Action.bind_of_error h]
  · rw [Action.bind_of_ok h]
    rfl

/-- The requests that are sent while a version is resolved. -/
def sentFor (p : Plan) (forge : Forge) (published : Assets) (v : String) (j : Journal) :
    List Http.Request :=
  (p.resolve forge published v j).2.requests.drop j.requests.length

theorem sentFor_eq :
    p.sentFor forge published v j = (forge.resolveRef (gitRef v)).requests := by
  rw [sentFor, resolve_requests, List.drop_left]

end Plan

theorem gitRef_injective {v w : String} (h : gitRef v = gitRef w) : v = w := by
  have hfirst (s : String) : "heads/" ++ mainVersion ≠ "tags/" ++ s := fun h => by
    have := congrArg (List.head? ∘ String.toList) h
    simp [mainVersion] at this
  simp only [gitRef] at h
  split at h <;> split at h
  · next hv hw => rw [hv, hw]
  · exact absurd h (hfirst w)
  · exact absurd h.symm (hfirst v)
  · exact String.append_right_inj _ |>.1 h

namespace GitHub

open Http Url

variable {transport : Transport} {client : Client} {api : String} {p : Plan}

/-! ## Addresses of references -/

/-- An interface at the root of a host: but for slashes, nothing comes after its authority. -/
def AtRoot (api : String) : Prop :=
  ∃ secure authority, IsAuthority authority ∧ (base api).toList = schemeText secure ++ authority

theorem isAuthority_defaultApi : IsAuthority "api.github.com".toList :=
  ⟨by decide, forall_mem_of_all (by decide), forall_mem_of_all (by decide)⟩

theorem base_defaultApi :
    (base defaultApi).toList = schemeText true ++ "api.github.com".toList := by
  decide +kernel

theorem atRoot_defaultApi : AtRoot defaultApi :=
  ⟨true, _, isAuthority_defaultApi, base_defaultApi⟩

/-- What is fetched is what the address leads to, and it is asked for at most once. -/
theorem fetch_requests {α : Type} (read : Json.Placed → Except Document.Fault α)
    (address : String) : (fetch transport client read address).requests = [] ∨
      ∃ request, (fetch transport client read address).requests = [request] ∧
        Url.ofText? address = some request.url := by
  rw [fetch]
  split
  · exact .inl rfl
  · next url hurl =>
    split
    · exact .inl rfl
    · exact .inr ⟨_, rfl, hurl⟩

/-- The path that a reference of the default source repository is found under. -/
def refPath (ref : String) : String :=
  "/repos/" ++ defaultPlan.sourceRepository ++ "/git/ref/" ++ ref

/-- What stands before a version in a path, but for the slashes around it. -/
def pathFront (kind : String) : List Char := ("repos/TileDB-Inc/TileDB/git/ref/" ++ kind).toList

theorem literal_pathFront_iff {kind : String} (hkind : kind ∈ ["heads", "tags"]) (cs : List Char) :
    Literal (pathFront kind ++ '/' :: cs) ↔ Literal cs := by
  have hall : ∀ kind ∈ ["heads", "tags"],
      (pathFront kind).all (fun c => c ∉ ['\t', '\n', '\r', '#', '?', '\\', '%']) = true ∧
      ∀ s ∈ splitAtMarks (· = '/') (pathFront kind), s ≠ ['.'] ∧ s ≠ ['.', '.'] := by
    decide +kernel
  obtain ⟨hchars, hpoints⟩ := hall kind hkind
  replace hchars := forall_mem_of_all hchars
  refine literal_append_slash_iff (fun c hc h => hchars c hc ?_) ⟨fun h => ?_, ?_, hpoints⟩
  · exact List.mem_append_left ['\\', '%'] h
  · exact absurd (hchars _ h) (by decide)
  · exact unescaped_of_notMem fun h => absurd (hchars _ h) (by decide)

theorem exists_kind (v : String) : ∃ kind ∈ ["heads", "tags"], gitRef v = kind ++ "/" ++ v := by
  rw [gitRef]
  split
  · next h => exact ⟨"heads", by decide, by rw [h]; rfl⟩
  · exact ⟨"tags", by decide, rfl⟩

/-- The path of a version's reference is literal where the version is. -/
theorem refPath_literal_iff (v : String) :
    ∃ cs, (refPath (gitRef v)).toList = '/' :: cs ∧ (Literal cs ↔ Literal v.toList) := by
  obtain ⟨kind, hkind, href⟩ := exists_kind v
  refine ⟨_, ?_, literal_pathFront_iff hkind v.toList⟩
  rw [href, pathFront]
  simp only [refPath, String.toList_append, List.append_assoc]
  rfl

theorem refAddress_toList (hsource : p.sourceRepository = defaultPlan.sourceRepository)
    (ref : String) : (refAddress api p.sourceRepository ref).toList =
      (base api).toList ++ (refPath ref).toList := by
  rw [hsource]
  simp only [refAddress, refPath, String.toList_append, List.append_assoc]

/-! ## Requests for versions -/

variable {published : Assets} {j : Journal} {v : String} {request : Request}

theorem asks_of_sent (hapi : AtRoot api)
    (hsource : p.sourceRepository = defaultPlan.sourceRepository)
    (hsent : request ∈ p.sentFor (forge transport client api p) published v j) :
    (request.url.query = none ∧ decode (joined request.url.path) = bytesOf (refPath (gitRef v))) ↔
      Literal v.toList := by
  rw [Plan.sentFor_eq] at hsent
  rcases fetch_requests readCommit (refAddress api p.sourceRepository (gitRef v)) with
    h | ⟨request', h, hurl⟩
  · rw [forge, h] at hsent
    cases hsent
  rw [forge, h, List.mem_singleton] at hsent
  subst hsent
  obtain ⟨secure, authority, hauthority, hbase⟩ := hapi
  obtain ⟨cs, hpath, hliteral⟩ := refPath_literal_iff v
  rw [← String.ofList_toList (s := refAddress _ _ _), refAddress_toList hsource, hbase,
    hpath] at hurl
  rw [bytesOf_eq, hpath, asks_iff hauthority (ofText?_eq_some_iff.1 hurl).1, hliteral]

theorem length_sentFor_le :
    (p.sentFor (forge transport client api p) published v j).length ≤ 1 := by
  rw [Plan.sentFor_eq]
  rcases fetch_requests readCommit (refAddress api p.sourceRepository (gitRef v)) with
    h | ⟨request, h, -⟩ <;> rw [forge, h]
  · exact Nat.zero_le 1
  · exact Nat.le_refl 1

/-- Addresses without a query that have one target have one path. -/
theorem joined_eq_of_target_eq {u u' : Url} (hquery : u.query = none) (hquery' : u'.query = none)
    (h : u.target = u'.target) : joined u.path = joined u'.path := by
  rw [target, target, hquery, hquery', List.append_nil, List.append_nil] at h
  exact String.ofList_inj.1 h

theorem refPath_gitRef_injective {v w : String}
    (h : refPath (gitRef v) = refPath (gitRef w)) : v = w :=
  gitRef_injective (String.append_right_inj _ |>.1 h)

/-- **A version's request asks for its reference exactly when the version is literal**: at most one
request is sent for a version, without a query and with a path that decodes to that of the reference
if the version is literal, and not so if it is not. Literal versions have targets of their own. -/
theorem sent_asks_iff (hapi : AtRoot api)
    (hsource : p.sourceRepository = defaultPlan.sourceRepository) :
    (∀ v j, (p.sentFor (forge transport client api p) published v j).length ≤ 1 ∧
      ∀ request ∈ p.sentFor (forge transport client api p) published v j,
        (request.url.query = none ∧
          decode (joined request.url.path) = bytesOf (refPath (gitRef v))) ↔ Literal v.toList) ∧
    ∀ v w j j', Literal v.toList → Literal w.toList →
      ∀ request ∈ p.sentFor (forge transport client api p) published v j,
      ∀ request' ∈ p.sentFor (forge transport client api p) published w j',
        request.url.target = request'.url.target → v = w := by
  refine ⟨fun v j => ⟨length_sentFor_le, fun request hr => asks_of_sent hapi hsource hr⟩, ?_⟩
  intro v w j j' hv hw request hr request' hr' htarget
  obtain ⟨hquery, hpath⟩ := (asks_of_sent hapi hsource hr).2 hv
  obtain ⟨hquery', hpath'⟩ := (asks_of_sent hapi hsource hr').2 hw
  rw [joined_eq_of_target_eq hquery hquery' htarget, hpath', bytesOf_eq, bytesOf_eq] at hpath
  exact refPath_gitRef_injective (String.toList_inj.1 (bytesOfChars_injective hpath)).symm

/-! ### A version with a fragment -/

/-- The default plan for two versions, of which one is the other with a fragment. -/
def fragmentPlan : Plan := { defaultPlan with versions := ["1", "1#x"] }

/-- A service that has published nothing and knows one tag. -/
def oneTag : Transport := .ofTable
  [("/repos/TileDB-Inc/tiledb-rs/releases/tags/nightlies",
      ⟨200, bytesOf "\x7b\"assets\": []\x7d"⟩),
    ("/repos/TileDB-Inc/TileDB/git/ref/tags/1",
      ⟨200, bytesOf "\x7b\"object\": \x7b\"sha\": \"0123456789\"\x7d\x7d"⟩)]

theorem literal_one : Literal "1".toList :=
  ⟨⟨by decide, unescaped_of_notMem (by decide), by decide⟩, forall_mem_of_all (by decide),
    fun c hc => by cases hc; decide⟩

theorem sent_asks_iff_fragmentPlan :
    AtRoot defaultApi ∧ fragmentPlan.sourceRepository = defaultPlan.sourceRepository ∧
      (∃ request ∈ fragmentPlan.sentFor (forge oneTag ⟨none⟩ defaultApi fragmentPlan)
          (.ofList []) "1" {}, request.url.query = none ∧
        decode (joined request.url.path) = bytesOf (refPath "tags/1")) ∧
      ∃ request ∈ fragmentPlan.sentFor (forge oneTag ⟨none⟩ defaultApi fragmentPlan)
          (.ofList []) "1#x" {}, ¬ (request.url.query = none ∧
        decode (joined request.url.path) = bytesOf (refPath "tags/1#x")) := by
  obtain ⟨hasks, -⟩ := @sent_asks_iff oneTag ⟨none⟩ defaultApi fragmentPlan (.ofList [])
    atRoot_defaultApi rfl
  have hsent : ∀ v ∈ fragmentPlan.versions, fragmentPlan.sentFor
      (forge oneTag ⟨none⟩ defaultApi fragmentPlan) (.ofList []) v {} ≠ [] := by
    decide +kernel
  obtain ⟨request, hr⟩ := List.exists_mem_of_ne_nil _ (hsent "1" (by decide))
  obtain ⟨request', hr'⟩ := List.exists_mem_of_ne_nil _ (hsent "1#x" (by decide))
  refine ⟨atRoot_defaultApi, rfl, ⟨request, hr, ((hasks "1" {}).2 request hr).2 literal_one⟩,
    request', hr', fun h => ?_⟩
  have hliteral := ((hasks "1#x" {}).2 request' hr').1 h
  exact absurd (hliteral.kept '#' (by decide)) (by decide)

/-- A usable plan may name a version whose reference is never asked for: what stands after the sign
of a fragment is not sent, so the commit is that of another version. -/
theorem fragment_asks_for_other :
    fragmentPlan.validate = .ok () ∧
      (fragmentPlan.generate (forge oneTag ⟨none⟩ defaultApi fragmentPlan) {}).1.isOk = true ∧
      (fragmentPlan.generate (forge oneTag ⟨none⟩ defaultApi fragmentPlan) {}).2.lookups =
        [.assets, .ref "tags/1", .ref "tags/1#x"] ∧
      (fragmentPlan.generate (forge oneTag ⟨none⟩ defaultApi fragmentPlan) {}).2.requests.map
          (·.url.target) =
        ["/repos/TileDB-Inc/tiledb-rs/releases/tags/nightlies",
          "/repos/TileDB-Inc/TileDB/git/ref/tags/1",
          "/repos/TileDB-Inc/TileDB/git/ref/tags/1"] := by
  refine ⟨rfl, ?_⟩
  decide +kernel

end GitHub

end Packaging
