import VkTurn.Frontend.WingsvImporter
import VkTurn.Transition.Chain

/-! # Whether an import comes to an end

The body of a subscription is normalized again, so that it may be the address of a further one.
Nothing bounds how far this goes.
-/

namespace VkTurn.Frontend

open VkTurn.Launcher VkTurn.Text VkTurn.Transition

/-- The address that `normalize` fetches, if there is one. -/
def subscriptionUrl? (raw : String) : Option String :=
  let trimmed := trim isQuote (kotlinTrim raw)
  if trimmed = "" then none
  else if startsIgnoringCase trimmed "http://" ∨ startsIgnoringCase trimmed "https://" then
    some trimmed
  else none

/-- What `normalize` returns without a fetch. -/
def tokenOf (raw : String) : Option String :=
  let trimmed := trim isQuote (kotlinTrim raw)
  if trimmed = "" then none
  else
    let body := removePrefix "wingsv://" trimmed
    if isNotBlank body then some body else none

section Normalize

variable (fetchSubscription : String → Option String)

/-- `normalize`, as far as some nested calls get; `none` when they do not get to its end. -/
def normalizeWithin : Nat → String → Option (Option String)
  | 0, _ => none
  | calls + 1, raw =>
    match subscriptionUrl? raw with
    | some url =>
      match fetchSubscription url with
      | none => some none
      | some fetched => normalizeWithin calls (kotlinTrim fetched)
    | none => some (tokenOf raw)

/-- The call returns after finitely many fetches. -/
def Normalizes (raw : String) : Prop :=
  ∃ calls result, normalizeWithin fetchSubscription calls raw = some result

/-- The address that the body of another one holds. -/
def nextUrl (url : String) : Option String :=
  (fetchSubscription url).bind fun fetched => subscriptionUrl? (kotlinTrim fetched)

end Normalize

section Termination

variable {fetchSubscription : String → Option String} {raw url : String}

theorem normalize_succ (codec : WingsvCodec) (depth : Nat) (raw : String) :
    normalize codec (depth + 1) raw =
      match subscriptionUrl? raw with
      | some url =>
        (codec.fetchSubscription url).bind fun fetched => normalize codec depth (kotlinTrim fetched)
      | none => tokenOf raw := by
  simp only [normalize, subscriptionUrl?, tokenOf]
  by_cases isEmpty : trim isQuote (kotlinTrim raw) = ""
  · simp only [isEmpty, if_true]
  · simp only [isEmpty, if_false]
    split
    · rfl
    · rfl

/-- The importer's `normalize` gives the result from the depth on that is needed. -/
theorem normalize_eq {codec : WingsvCodec} {calls depth : Nat} {result : Option String}
    (returned : normalizeWithin codec.fetchSubscription calls raw = some result)
    (deeper : calls ≤ depth) : normalize codec depth raw = result := by
  induction calls generalizing raw depth with
  | zero => cases returned
  | succ calls inductionHypothesis =>
    obtain ⟨depth, rfl⟩ : ∃ below, depth = below + 1 := ⟨depth - 1, by omega⟩
    rw [normalize_succ]
    unfold normalizeWithin at returned
    cases isUrl : subscriptionUrl? raw with
    | none =>
      rw [isUrl] at returned
      exact Option.some.inj returned
    | some url =>
      rw [isUrl] at returned
      cases isFetched : codec.fetchSubscription url with
      | none =>
        simp only [isFetched, Option.some.injEq] at returned
        rw [← returned, Option.bind_eq_none_iff]
        intro fetched present
        rw [isFetched] at present
        cases present
      | some fetched =>
        simp only [isFetched] at returned
        have fewer : calls ≤ depth := Nat.le_of_succ_le_succ deeper
        simp only [isFetched, Option.bind_some, inductionHypothesis returned fewer]

theorem normalizes_iff_chainEnds :
    Normalizes fetchSubscription raw ↔
      ∀ url, subscriptionUrl? raw = some url → ChainEnds (nextUrl fetchSubscription) url := by
  constructor
  · rintro ⟨calls, result, returned⟩ url isUrl
    refine ⟨calls, ?_⟩
    induction calls generalizing raw url with
    | zero => cases returned
    | succ calls inductionHypothesis =>
      simp only [normalizeWithin, isUrl] at returned
      rw [follow, nextUrl]
      cases isFetched : fetchSubscription url with
      | none => rfl
      | some fetched =>
        rw [isFetched] at returned
        rw [Option.bind_some]
        cases isNext : subscriptionUrl? (kotlinTrim fetched) with
        | none => rfl
        | some next => exact inductionHypothesis returned next isNext
  · intro ends
    cases isUrl : subscriptionUrl? raw with
    | none => exact ⟨1, tokenOf raw, by simp only [normalizeWithin, isUrl]⟩
    | some url =>
      obtain ⟨steps, ended⟩ := ends url isUrl
      clear ends
      induction steps generalizing raw url with
      | zero => cases ended
      | succ steps inductionHypothesis =>
        cases isFetched : fetchSubscription url with
        | none => exact ⟨1, none, by simp only [normalizeWithin, isUrl, isFetched]⟩
        | some fetched =>
          rw [follow, nextUrl, isFetched, Option.bind_some] at ended
          have nested : Normalizes fetchSubscription (kotlinTrim fetched) := by
            cases isNext : subscriptionUrl? (kotlinTrim fetched) with
            | none =>
              exact ⟨1, tokenOf (kotlinTrim fetched), by simp only [normalizeWithin, isNext]⟩
            | some next =>
              rw [isNext, Option.bind_some] at ended
              exact inductionHypothesis next isNext ended
          obtain ⟨calls, result, returned⟩ := nested
          exact ⟨calls + 1, result, by simp only [normalizeWithin, isUrl, isFetched, returned]⟩

/-- The import comes to an end if and only if no endless chain of subscriptions starts at its
    address; where finitely many addresses have a body, if and only if none comes up twice. -/
theorem normalizes_iff (fetchSubscription : String → Option String) (raw : String) :
    (Normalizes fetchSubscription raw ↔ ∀ url, subscriptionUrl? raw = some url →
      ¬ ∃ urls, EndlessChain (nextUrl fetchSubscription) url urls) ∧
    ({url | (fetchSubscription url).isSome}.Finite →
      (Normalizes fetchSubscription raw ↔ ∀ url, subscriptionUrl? raw = some url →
        ∀ first second again, first < second →
          follow (nextUrl fetchSubscription) first url = some again →
          follow (nextUrl fetchSubscription) second url ≠ some again)) := by
  constructor
  · rw [normalizes_iff_chainEnds]
    exact forall_congr' fun url => imp_congr_right fun _ => chainEnds_iff_no_endless
  · intro finite
    have nextFinite : {url | (nextUrl fetchSubscription url).isSome}.Finite := by
      refine finite.subset fun url isNext => ?_
      obtain ⟨next, isSome⟩ := Option.isSome_iff_exists.mp isNext
      obtain ⟨fetched, isFetched, _⟩ := Option.bind_eq_some_iff.mp isSome
      exact Option.isSome_iff_exists.mpr ⟨fetched, isFetched⟩
    rw [normalizes_iff_chainEnds]
    exact forall_congr' fun url => imp_congr_right fun _ => chainEnds_iff_no_repetition nextFinite

end Termination

/-- A subscription whose body is its own address. -/
theorem import_never_ends : ¬ ∀ fetchSubscription raw, Normalizes fetchSubscription raw := by
  intro always
  have ends := normalizes_iff_chainEnds.mp
    (always (fun _ => some "https://sub.example/a") "https://sub.example/a")
  have isUrl : subscriptionUrl? "https://sub.example/a" = some "https://sub.example/a" := by decide +kernel
  have isNext : nextUrl (fun _ => some "https://sub.example/a") "https://sub.example/a" =
      some "https://sub.example/a" := by decide +kernel
  refine chainEnds_iff_no_endless.mp (ends _ isUrl) ⟨fun _ => "https://sub.example/a", rfl, ?_⟩
  exact fun _ => isNext

end VkTurn.Frontend
