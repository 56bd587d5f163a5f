import Packaging.Forge.GitHub
import Packaging.Proofs.Matrix

/-!
# The responses that a matrix is made from

A matrix is made exactly when every lookup has an answer, and GitHub has one exactly when a response
comes that is no failure and has a body that can be read. Only statuses from 400 to 599 are
failures.

* `generate_isOk_iff`, `generate_requests`: the lookups of a run and the requests of one that
  succeeds.
* `fetch_ok_iff`: the responses that give an answer.
* `generate_accepts_iff`: the responses that a matrix is made from.
* `redirect_is_accepted`: responses that are neither failures nor successes.
-/

namespace Packaging

open Packaging.Action

/-! ## Runs that succeed -/

theorem Session.ask_of_ok {α : Type} {reply : Reply α} {a : α} (lookup : Lookup) (j : Journal)
    (h : reply.outcome = .ok a) :
    ∃ j', Session.ask lookup reply j = (.ok a, j') ∧
      j'.requests = j.requests ++ reply.requests := by
  refine ⟨{ j with lookups := j.lookups ++ [lookup], requests := j.requests ++ reply.requests },
    ?_, rfl⟩
  rw [Session.ask, h]
  rfl

namespace Plan

variable {p : Plan} {forge : Forge} {published : Assets} {versions : List String} {j : Journal}

theorem resolve_of_ok {v commit : String} (p : Plan) (published : Assets) (j : Journal)
    (h : (forge.resolveRef (gitRef v)).outcome = .ok commit) :
    ∃ builds j', p.resolve forge published v j = (.ok builds, j') ∧
      j'.requests = j.requests ++ (forge.resolveRef (gitRef v)).requests := by
  obtain ⟨j₁, hask, hj₁⟩ := Session.ask_of_ok (.ref (gitRef v)) j h
  rw [resolve, bind_of_ok hask]
  exact ⟨_, _, rfl, hj₁⟩

/-- Versions that all have commits are resolved one after another. -/
theorem mapM_resolve_of_ok (p : Plan) (published : Assets) (j : Journal)
    (h : ∀ v ∈ versions, ∃ commit, (forge.resolveRef (gitRef v)).outcome = .ok commit) :
    ∃ found j', (versions.mapM (p.resolve forge published)) j = (.ok found, j') ∧
      j'.requests =
        j.requests ++ versions.flatMap fun v => (forge.resolveRef (gitRef v)).requests := by
  induction versions generalizing j with
  | nil => exact ⟨[], j, rfl, (List.append_nil _).symm⟩
  | cons v versions ih =>
    obtain ⟨commit, hcommit⟩ := h v List.mem_cons_self
    obtain ⟨builds, j₁, hrun, hj₁⟩ := resolve_of_ok p published j hcommit
    obtain ⟨found, j₂, hrest, hj₂⟩ := ih j₁ fun w hw => h w (List.mem_cons_of_mem _ hw)
    refine ⟨builds :: found, j₂, ?_, ?_⟩
    · rw [List.mapM_cons, bind_of_ok hrun, bind_of_ok hrest]
      rfl
    · rw [hj₂, hj₁, List.append_assoc, List.flatMap_cons]

theorem generate_of_ok (j : Journal) (hassets : forge.releaseAssets.outcome = .ok published)
    (hrefs : ∀ v ∈ p.versions, ∃ commit, (forge.resolveRef (gitRef v)).outcome = .ok commit) :
    ∃ builds j', p.generate forge j = (.ok builds, j') ∧
      j'.requests = j.requests ++ (forge.releaseAssets.requests ++
        p.versions.flatMap fun v => (forge.resolveRef (gitRef v)).requests) := by
  obtain ⟨j₁, hask, hj₁⟩ := Session.ask_of_ok .assets j hassets
  rw [generate, bind_of_ok hask]
  obtain ⟨found, j₂, hfound, hj₂⟩ := mapM_resolve_of_ok p published
    { j₁ with log := j₁.log ++ [s!"{published.size} assets published under {p.releaseTag}"] } hrefs
  refine ⟨_, _, (bind_of_ok rfl).trans ((bind_of_ok hfound).trans ((bind_of_ok rfl).trans rfl)), ?_⟩
  show j₂.requests = _
  rw [hj₂, ← List.append_assoc, ← hj₁]

/-- **A matrix is made exactly when every lookup has an answer.** -/
theorem generate_isOk_iff : (p.generate forge j).1.isOk = true ↔
    (∃ published, forge.releaseAssets.outcome = .ok published) ∧
      ∀ v ∈ p.versions, ∃ commit, (forge.resolveRef (gitRef v)).outcome = .ok commit := by
  constructor
  · intro h
    obtain ⟨builds, hrun⟩ := exists_of_isOk h
    obtain ⟨published, hassets, hrefs, -⟩ := generate_ok hrun
    exact ⟨⟨published, hassets⟩, fun v hv => ⟨_, hrefs v hv⟩⟩
  · rintro ⟨⟨published, hassets⟩, hrefs⟩
    obtain ⟨builds, j', hrun, -⟩ := generate_of_ok j hassets hrefs
    rw [hrun]
    rfl

/-- What is sent while a matrix is made. -/
theorem generate_requests (h : (p.generate forge j).1.isOk = true) :
    (p.generate forge j).2.requests = j.requests ++ (forge.releaseAssets.requests ++
      p.versions.flatMap fun v => (forge.resolveRef (gitRef v)).requests) := by
  obtain ⟨⟨published, hassets⟩, hrefs⟩ := generate_isOk_iff.1 h
  obtain ⟨builds, j', hrun, hj'⟩ := generate_of_ok j hassets hrefs
  rw [hrun, hj']

end Plan

namespace GitHub

open Document Http

variable {transport : Transport} {client : Client} {api address : String} {p : Plan} {j : Journal}

/-! ## Responses that give an answer -/

/-- The response to the request for what an address leads to. -/
def responseTo? (transport : Transport) (client : Client) (address : String) : Option Response :=
  (Url.ofText? address).bind fun url => transport (requestFor client url)

/-- A response has an answer: its status is no failure, and its body can be read. -/
structure Gives {α : Type} (read : Json.Placed → Except Fault α) (response : Response) (a : α) :
    Prop where
  status : isFailure response.status = false
  body : Json.readBytes read response.body = .ok a

section Fetch

variable {α : Type} {read : Json.Placed → Except Fault α} {a : α}

/-- **An answer is fetched exactly when a response has it.** -/
theorem fetch_ok_iff : (fetch transport client read address).outcome = .ok a ↔
    ∃ response, responseTo? transport client address = some response ∧ Gives read response a := by
  rw [fetch, responseTo?]
  cases hurl : Url.ofText? address with
  | none => simp
  | some url =>
    rw [Option.bind_some]
    dsimp only
    cases transport (requestFor client url) with
    | none => simp
    | some response =>
      dsimp only
      simp only [Option.some.injEq, exists_eq_left']
      constructor
      · intro h
        split at h
        · cases h
        · next hstatus =>
          refine ⟨Bool.not_eq_true _ ▸ hstatus, ?_⟩
          split at h
          · next hbody => cases h; exact hbody
          · cases h
      · rintro ⟨hstatus, hbody⟩
        rw [hstatus, hbody]
        rfl

/-- An answer that was fetched was asked for once. -/
theorem fetch_requests_of_ok (h : (fetch transport client read address).outcome = .ok a) :
    ∃ request response, (fetch transport client read address).requests = [request] ∧
      transport request = some response ∧ isFailure response.status = false := by
  obtain ⟨response, hresponse, hgives⟩ := fetch_ok_iff.1 h
  obtain ⟨url, hurl, hresponse⟩ := Option.bind_eq_some_iff.1 hresponse
  refine ⟨requestFor client url, response, ?_, hresponse, hgives.status⟩
  rw [fetch, hurl]
  dsimp only
  rw [hresponse]

end Fetch

theorem releaseAssets_forge : (forge transport client api p).releaseAssets =
    fetch transport client (fun x => Assets.ofList <$> readAssets x)
      (releaseAddress api p.releaseRepository p.releaseTag) := by
  rw [forge]

theorem resolveRef_forge (ref : String) : (forge transport client api p).resolveRef ref =
    fetch transport client readCommit (refAddress api p.sourceRepository ref) := by
  rw [forge]

theorem isFailure_eq_false_iff {status : Nat} :
    isFailure status = false ↔ status < 400 ∨ 600 ≤ status := by
  simp only [isFailure, Bool.and_eq_false_iff, decide_eq_false_iff_not, Nat.not_le, Nat.not_lt]

/-- **A matrix is made exactly from responses that are no failures and can be read**, one for the
release and one for each version. Any status is taken that is not between 400 and 599, so no more
than this is known of the responses to the requests of a run that succeeds. -/
theorem generate_accepts_iff (transport : Transport) (client : Client) (api : String) (p : Plan)
    (j : Journal) :
    ((p.generate (forge transport client api p) j).1.isOk = true ↔
      (∃ response published, responseTo? transport client
          (releaseAddress api p.releaseRepository p.releaseTag) = some response ∧
        Gives (fun x => Assets.ofList <$> readAssets x) response published) ∧
      ∀ v ∈ p.versions, ∃ response commit, responseTo? transport client
          (refAddress api p.sourceRepository (gitRef v)) = some response ∧
        Gives readCommit response commit) ∧
    ((p.generate (forge transport client api p) j).1.isOk = true →
      ∀ request ∈ (p.generate (forge transport client api p) j).2.requests.drop j.requests.length,
        ∃ response, transport request = some response ∧
          (response.status < 400 ∨ 600 ≤ response.status)) := by
  constructor
  · rw [Plan.generate_isOk_iff]
    simp only [releaseAssets_forge, resolveRef_forge, fetch_ok_iff]
    refine and_congr exists_comm (forall₂_congr fun v _ => exists_comm)
  · intro hok request hrequest
    rw [Plan.generate_requests hok, List.drop_left, releaseAssets_forge] at hrequest
    simp only [resolveRef_forge] at hrequest
    obtain ⟨⟨published, hassets⟩, hrefs⟩ := Plan.generate_isOk_iff.1 hok
    rw [releaseAssets_forge] at hassets
    simp only [resolveRef_forge] at hrefs
    simp only [← isFailure_eq_false_iff]
    rcases List.mem_append.1 hrequest with hrequest | hrequest
    · obtain ⟨request', response, hsent, hresponse, hstatus⟩ := fetch_requests_of_ok hassets
      rw [hsent, List.mem_singleton] at hrequest
      exact ⟨response, hrequest ▸ hresponse, hstatus⟩
    · obtain ⟨v, hv, hrequest⟩ := List.mem_flatMap.1 hrequest
      obtain ⟨commit, hcommit⟩ := hrefs v hv
      obtain ⟨request', response, hsent, hresponse, hstatus⟩ := fetch_requests_of_ok hcommit
      rw [hsent, List.mem_singleton] at hrequest
      exact ⟨response, hrequest ▸ hresponse, hstatus⟩

/-- A plan with one version and one platform. -/
def movedPlan : Plan where
  versions := ["main"]
  platforms := [{ id := "p", runner := "r", triplet := "x" }]
  sourceRepository := "o/s"
  releaseRepository := "o/r"
  releaseTag := "t"

/-- A service that says of everything that it has moved, and not where to. -/
def moved : Transport := .ofTable
  [("/repos/o/r/releases/tags/t", ⟨302, Text.bytesOf "\x7b\"assets\": []\x7d"⟩),
    ("/repos/o/s/git/ref/heads/main",
      ⟨302, Text.bytesOf "\x7b\"object\": \x7b\"sha\": \"0123456789\"\x7d\x7d"⟩)]

theorem generate_moved :
    (movedPlan.generate (forge moved ⟨none⟩ defaultApi movedPlan) {}).1.isOk = true ∧
      (movedPlan.generate (forge moved ⟨none⟩ defaultApi movedPlan) {}).2.requests.map
        (fun request => (moved request).map (·.status)) = [some 302, some 302] := by
  decide +kernel

theorem generate_accepts_iff_moved :
    (movedPlan.generate (forge moved ⟨none⟩ defaultApi movedPlan) {}).1.isOk = true ∧
    (∃ response published, responseTo? moved ⟨none⟩ (releaseAddress defaultApi "o/r" "t") =
        some response ∧ Gives (fun x => Assets.ofList <$> readAssets x) response published) ∧
    ∀ request ∈ (movedPlan.generate (forge moved ⟨none⟩ defaultApi movedPlan) {}).2.requests,
      ∃ response, moved request = some response ∧
        (response.status < 400 ∨ 600 ≤ response.status) := by
  obtain ⟨hiff, hstatus⟩ := generate_accepts_iff moved ⟨none⟩ defaultApi movedPlan {}
  exact ⟨generate_moved.1, (hiff.1 generate_moved.1).1, hstatus generate_moved.1⟩

/-- A matrix may be made from responses none of which is a success. -/
theorem redirect_is_accepted :
    movedPlan.validate = .ok () ∧
    (movedPlan.generate (forge moved ⟨none⟩ defaultApi movedPlan) {}).1.isOk = true ∧
    ¬ ∀ request ∈ (movedPlan.generate (forge moved ⟨none⟩ defaultApi movedPlan) {}).2.requests,
      ∀ response, moved request = some response →
        200 ≤ response.status ∧ response.status < 300 := by
  obtain ⟨hok, hstatuses⟩ := generate_moved
  refine ⟨rfl, hok, fun hall => ?_⟩
  generalize (movedPlan.generate (forge moved ⟨none⟩ defaultApi movedPlan) {}).2.requests =
    requests at hstatuses hall
  obtain ⟨request, rest, rfl, hfirst, -⟩ := List.map_eq_cons_iff.1 hstatuses
  obtain ⟨response, hresponse, hstatus⟩ := Option.map_eq_some_iff.1 hfirst
  have := (hall request List.mem_cons_self response hresponse).2
  omega

end GitHub

end Packaging
