import Mathlib.Data.List.Forall2

/-!
# Computations that may fail

What a computation in several steps gives is found step by step: in a step whose result is
changed, in one step behind another, and in one step for each element of a list.
-/

set_option autoImplicit false

namespace UriTemplate

variable {ε α β γ : Type}

/-- A mapped computation succeeds with the image of a result. -/
theorem exceptMap_ok {change : α → β} {attempt : Except ε α} {result : β} :
    attempt.map change = .ok result ↔ ∃ found, attempt = .ok found ∧ change found = result := by
  cases attempt <;> simp [Except.map]

/-- A mapped computation fails as it does without the change. -/
theorem exceptMap_error {change : α → β} {attempt : Except ε α} {error : ε} :
    attempt.map change = .error error ↔ attempt = .error error := by
  cases attempt <;> simp [Except.map]

theorem exceptMap_map (attempt : Except ε α) (first : α → β) (second : β → γ) :
    (attempt.map first).map second = attempt.map (second ∘ first) := by
  cases attempt <;> rfl

/-- A sequence of computations succeeds if the first does and the second does with its result. -/
theorem exceptBind_ok {attempt : Except ε α} {next : α → Except ε β} {result : β} :
    attempt >>= next = .ok result ↔ ∃ found, attempt = .ok found ∧ next found = .ok result := by
  cases attempt <;> simp [bind, Except.bind]

/-! ## Faults -/

/-- A computation that fails with a given fault, if there is one, and with no other. -/
def FailsWith (attempt : Except ε α) (fault? : Option ε) : Prop :=
  ∀ error, attempt = .error error ↔ fault? = some error

theorem failsWith_ok (result : α) : FailsWith (.ok result : Except ε α) none := by
  intro error
  simp

theorem failsWith_error (error : ε) : FailsWith (.error error : Except ε α) (some error) := by
  intro other
  simp

section

variable {computed : Except ε α} {fault? : Option ε}

/-- Without a failure there is no fault. -/
theorem FailsWith.eq_none (fails : FailsWith computed fault?) {result : α}
    (found : computed = .ok result) : fault? = none := by
  rw [Option.eq_none_iff_forall_ne_some]
  intro error faulty
  have failed := (fails error).mpr faulty
  rw [found] at failed
  cases failed

/-- Without a fault there is a result. -/
theorem FailsWith.exists_ok (fails : FailsWith computed fault?) (faultless : fault? = none) :
    ∃ result, computed = .ok result := by
  cases found : computed with
  | error error =>
      have faulty := (fails error).mp found
      rw [faultless] at faulty
      cases faulty
  | ok result => exact ⟨result, rfl⟩

theorem FailsWith.map (fails : FailsWith computed fault?) (change : α → β) :
    FailsWith (computed.map change) fault? := by
  intro error
  rw [exceptMap_error]
  exact fails error

/-- A sequence of computations fails with its first fault. -/
theorem FailsWith.bind (fails : FailsWith computed fault?) {next : α → Except ε β}
    {further? : Option ε} (goesOn : ∀ result, FailsWith (next result) further?) :
    FailsWith (computed >>= next) (fault?.or further?) := by
  intro error
  cases found : computed with
  | error first =>
      have stops : ((Except.error first : Except ε α) >>= next) = .error first := rfl
      rw [stops, (fails first).mp found, Option.some_or, Except.error.injEq, Option.some.injEq]
  | ok result =>
      rw [fails.eq_none found, Option.none_or]
      exact goesOn result error

end

variable {attempt : α → Except ε β} {list : List α}

/-- Computations in a row fail with the first of their faults. -/
theorem failsWith_mapM {fault? : α → Option ε}
    (each : ∀ element ∈ list, FailsWith (attempt element) (fault? element)) :
    FailsWith (list.mapM attempt) (list.findSome? fault?) := by
  induction list with
  | nil => exact failsWith_ok []
  | cons element rest ih =>
      have tail := ih fun other member => each other (by simp [member])
      have split : (element :: rest).findSome? fault? =
          (fault? element).or (rest.findSome? fault?) := by
        rw [List.findSome?_cons]
        cases fault? element <;> rfl
      rw [List.mapM_cons, split]
      exact (each element (by simp)).bind fun _ => tail.map _

/-! ## Steps in a row -/

/-- Steps that are the same for each element of a list are the same in a row. -/
theorem foldlM_congr {left right : β → α → Except ε β}
    (same : ∀ state, ∀ element ∈ list, left state element = right state element) (start : β) :
    list.foldlM left start = list.foldlM right start := by
  induction list generalizing start with
  | nil => rfl
  | cons element rest ih =>
      have tail := ih fun state other member => same state other (by simp [member])
      rw [List.foldlM_cons, List.foldlM_cons, same start element (by simp)]
      simp only [tail]

/-- Steps whose results go into a state one by one can all be taken before. -/
theorem foldlM_eq_mapM (attempt : α → Except ε β) (step : γ → β → γ) (list : List α) (start : γ) :
    list.foldlM (fun state element => (attempt element).map (step state)) start =
      (list.mapM attempt).map fun results => results.foldl step start := by
  induction list generalizing start with
  | nil => rfl
  | cons element rest ih =>
      rw [List.foldlM_cons, List.mapM_cons]
      cases attempt element with
      | error error => rfl
      | ok result =>
          refine (ih (step start result)).trans ?_
          cases rest.mapM attempt <;> rfl

/-- The results of steps can be changed one by one or all at the end. -/
theorem mapM_map (attempt : α → Except ε β) (change : β → γ) (list : List α) :
    (list.mapM fun element => (attempt element).map change) =
      (list.mapM attempt).map (List.map change) := by
  induction list with
  | nil => rfl
  | cons element rest ih =>
      rw [List.mapM_cons, List.mapM_cons, ih]
      cases attempt element with
      | error error => rfl
      | ok result => cases rest.mapM attempt <;> rfl

/-- Steps that are the same for related elements of two lists are the same in a row. -/
theorem mapM_congr_forall₂ {left : α → Except ε β} {right : γ → Except ε β} {others : List γ}
    (same : List.Forall₂ (fun element other => left element = right other) list others) :
    list.mapM left = others.mapM right := by
  induction same with
  | nil => rfl
  | cons head _ ih => rw [List.mapM_cons, List.mapM_cons, head, ih]

theorem mapM_congr {left right : α → Except ε β}
    (same : ∀ element ∈ list, left element = right element) :
    list.mapM left = list.mapM right :=
  mapM_congr_forall₂ (List.forall₂_same.mpr same)

/-- Behind a first success the others decide. -/
theorem mapM_cons_of_ok {element : α} {result : β} (found : attempt element = .ok result)
    (rest : List α) : (element :: rest).mapM attempt = (rest.mapM attempt).map (result :: ·) := by
  rw [List.mapM_cons, found]
  cases rest.mapM attempt <;> rfl

/-- Steps in a row succeed if the first does and so do the others. -/
theorem exists_of_mapM_cons {element : α} {rest : List α} {results : List β}
    (made : (element :: rest).mapM attempt = .ok results) :
    ∃ first more, attempt element = .ok first ∧ rest.mapM attempt = .ok more ∧
      results = first :: more := by
  rw [List.mapM_cons] at made
  rcases exceptBind_ok.mp made with ⟨first, found, made⟩
  rcases exceptBind_ok.mp made with ⟨more, tail, made⟩
  exact ⟨first, more, found, tail, (Except.ok.inj made).symm⟩

/-- Steps in a row give a result for each element. -/
theorem length_of_mapM {results : List β} (made : list.mapM attempt = .ok results) :
    results.length = list.length := by
  induction list generalizing results with
  | nil =>
      cases made
      rfl
  | cons element rest ih =>
      rcases exists_of_mapM_cons made with ⟨first, more, _, tail, rfl⟩
      rw [List.length_cons, List.length_cons, ih tail]

/-- Where each step fails in one way or gives a result, so do all of them together. -/
theorem mapM_ite {fails : α → Bool} {error : ε} {result : α → β}
    (each : ∀ element ∈ list, attempt element =
      if fails element then .error error else .ok (result element)) :
    list.mapM attempt = if list.any fails then .error error else .ok (list.map result) := by
  induction list with
  | nil => rfl
  | cons element rest ih =>
      have tail := ih fun other member => each other (by simp [member])
      rw [List.mapM_cons, each element (by simp), tail, List.any_cons]
      cases fails element with
      | true => rfl
      | false =>
          cases rest.any fails <;> rfl

/-- What a sequence of computations gives, one of them gives. -/
theorem exists_of_mapM {results : List β} (made : list.mapM attempt = .ok results) :
    ∀ result ∈ results, ∃ element ∈ list, attempt element = .ok result := by
  induction list generalizing results with
  | nil =>
      cases made
      intro result member
      cases member
  | cons element rest ih =>
      rcases exists_of_mapM_cons made with ⟨first, more, found, tail, rfl⟩
      intro result member
      rcases List.mem_cons.mp member with rfl | inside
      · exact ⟨element, by simp, found⟩
      · rcases ih tail result inside with ⟨other, there, gives⟩
        exact ⟨other, by simp [there], gives⟩

/-- What each of a list gives is among what they give together. -/
theorem exists_mem_of_mapM {results : List β} (made : list.mapM attempt = .ok results) :
    ∀ element ∈ list, ∃ result ∈ results, attempt element = .ok result := by
  induction list generalizing results with
  | nil =>
      intro element member
      cases member
  | cons first rest ih =>
      rcases exists_of_mapM_cons made with ⟨result, more, found, tail, rfl⟩
      intro element member
      rcases List.mem_cons.mp member with rfl | inside
      · exact ⟨result, by simp, found⟩
      · rcases ih tail element inside with ⟨other, there, gives⟩
        exact ⟨other, by simp [there], gives⟩

/-- Elements can be picked before or after their results are known. -/
theorem mapM_filter {keep : α → Bool} {passes : β → Bool} {results : List β}
    (made : list.mapM attempt = .ok results)
    (agree : ∀ element ∈ list, ∀ result, attempt element = .ok result →
      keep element = passes result) :
    (list.filter keep).mapM attempt = .ok (results.filter passes) := by
  induction list generalizing results with
  | nil =>
      cases made
      rfl
  | cons element rest ih =>
      rcases exists_of_mapM_cons made with ⟨first, more, found, tail, rfl⟩
      have further := ih tail fun other member => agree other (by simp [member])
      have same := agree element (by simp) first found
      rw [List.filter_cons, List.filter_cons, same]
      cases passes first with
      | false => exact further
      | true =>
          rw [if_pos rfl, if_pos rfl, mapM_cons_of_ok found, further]
          rfl

/-- Elements whose results are dropped can be left out before. -/
theorem mapM_filter_of_dropped {keep : α → Bool} {passes : β → Bool}
    (dropped : ∀ element ∈ list, keep element = false →
      ∃ result, attempt element = .ok result ∧ passes result = false) :
    ((list.filter keep).mapM attempt).map (List.filter passes) =
      (list.mapM attempt).map (List.filter passes) := by
  induction list with
  | nil => rfl
  | cons element rest ih =>
      have further := ih fun other member => dropped other (by simp [member])
      cases kept : keep element with
      | false =>
          rcases dropped element (by simp) kept with ⟨result, found, out⟩
          have same : List.filter passes ∘ (result :: ·) = List.filter passes := by
            funext results
            rw [Function.comp_apply, List.filter_cons, out, if_neg Bool.false_ne_true]
          rw [List.filter_cons, kept, if_neg Bool.false_ne_true, further, mapM_cons_of_ok found,
            exceptMap_map, same]
      | true =>
          rw [List.filter_cons, kept, if_pos rfl]
          cases found : attempt element with
          | error error =>
              rw [List.mapM_cons, List.mapM_cons, found]
              rfl
          | ok result =>
              -- The result is dropped or put in front behind the filter as well as before it.
              have behind : List.filter passes ∘ (result :: ·) =
                  (fun results => if passes result then result :: results else results) ∘
                    List.filter passes := by
                funext results
                simp only [Function.comp_apply, List.filter_cons]
              rw [mapM_cons_of_ok found, mapM_cons_of_ok found, exceptMap_map, exceptMap_map,
                behind, ← exceptMap_map, ← exceptMap_map, further]

end UriTemplate
