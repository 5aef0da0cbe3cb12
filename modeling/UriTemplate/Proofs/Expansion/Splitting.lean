import UriTemplate.Proofs.Expansion.Layout

/-!
# Splitting an expression

Where the prefix of an operator is its separator too, every item of an expansion stands behind that
mark, whatever stands before it. The variables of such an expression can be spread over two
expressions with the same operator, even if some of them have no items. A query begins with a mark
of its own, and goes on like a continuation.
-/

set_option autoImplicit false

namespace UriTemplate

/-! ## Layouts -/

namespace Operator

variable {operator : Operator}

/-- Behind the first item every item stands behind the separator. -/
theorem layout_cons (operator : Operator) (item : Item) (rest : List Item) :
    operator.layout (item :: rest) = operator.first ++ item.written operator ++
      rest.flatMap fun item => operator.separator ++ item.written operator := by
  rw [layout, if_neg (List.cons_ne_nil item rest), List.map_cons,
    ItemWriter.intercalate_eq_append, List.flatMap_map, List.append_assoc]

/-- The operators that begin with their separator. -/
def separatorFirst : List Operator :=
  [.label, .path, .pathParam, .continuation]

theorem first_of_mem_separatorFirst (member : operator ∈ separatorFirst) :
    operator.first = operator.separator := by
  have every : ∀ operator ∈ separatorFirst, operator.first = operator.separator := by decide
  exact every operator member

/-- Under such an operator the first item stands behind the separator as well. -/
theorem layout_of_mem_separatorFirst (member : operator ∈ separatorFirst) (items : List Item) :
    operator.layout items =
      items.flatMap fun item => operator.separator ++ item.written operator := by
  cases items with
  | nil => rfl
  | cons item rest => rw [layout_cons, first_of_mem_separatorFirst member, List.flatMap_cons]

theorem layout_append (member : operator ∈ separatorFirst) (left right : List Item) :
    operator.layout (left ++ right) = operator.layout left ++ operator.layout right := by
  simp only [layout_of_mem_separatorFirst member, List.flatMap_append]

/-- A query goes on like a continuation as soon as it has an item. -/
theorem layout_query_append (left right : List Item) :
    query.layout (left ++ right) =
      if query.layout left = [] then query.layout right
      else query.layout left ++ continuation.layout right := by
  have member : continuation ∈ separatorFirst := by decide
  -- Names, separators and masks of the two operators are the same.
  have alike : (fun item => query.separator ++ Item.written query item) =
      fun item => continuation.separator ++ Item.written continuation item := rfl
  cases left with
  | nil => rfl
  | cons item rest =>
      have some : query.layout (item :: rest) ≠ [] := List.cons_ne_nil _ _
      rw [if_neg some, List.cons_append, layout_cons, layout_cons, List.flatMap_append,
        layout_of_mem_separatorFirst member, alike]
      simp only [List.append_assoc]

end Operator

/-! ## Expressions -/

namespace Expression

variable {data : Value} {left right : List Variable}

/-- An expression expands to the layout of the items of its variables. -/
theorem expand_eq_map (genuine : data.Genuine) (operator : Operator) {vars : List Variable}
    (nonempty : vars ≠ []) :
    expand ⟨operator, vars, nonempty⟩ data =
      (vars.mapM (Variable.itemsIn operator data)).map fun items =>
        operator.layout items.flatten := by
  rw [expand_of_genuine genuine, items, exceptMap_map]
  rfl

/-- With more variables there are the items of the first ones, and behind them the others'. -/
theorem expand_append_eq_bind (genuine : data.Genuine) (operator : Operator)
    (nonempty : left ++ right ≠ []) :
    expand ⟨operator, left ++ right, nonempty⟩ data = do
      let before ← left.mapM (Variable.itemsIn operator data)
      let behind ← right.mapM (Variable.itemsIn operator data)
      return operator.layout (before.flatten ++ behind.flatten) := by
  rw [expand_eq_map genuine, List.mapM_append]
  cases left.mapM (Variable.itemsIn operator data) with
  | error error => rfl
  | ok before =>
      cases right.mapM (Variable.itemsIn operator data) with
      | error error => rfl
      | ok behind =>
          have whole : operator.layout (before ++ behind).flatten =
              operator.layout (before.flatten ++ behind.flatten) := by
            rw [List.flatten_append]
          exact congrArg Except.ok whole

theorem expand_append_of_separatorFirst (genuine : data.Genuine) {operator : Operator}
    (member : operator ∈ Operator.separatorFirst) (leftSome : left ≠ [])
    (rightSome : right ≠ []) :
    expand ⟨operator, left ++ right, List.append_ne_nil_of_left_ne_nil leftSome right⟩ data = do
      let before ← expand ⟨operator, left, leftSome⟩ data
      let behind ← expand ⟨operator, right, rightSome⟩ data
      return before ++ behind := by
  rw [expand_append_eq_bind genuine, expand_eq_map genuine, expand_eq_map genuine]
  cases left.mapM (Variable.itemsIn operator data) with
  | error error => rfl
  | ok before =>
      cases right.mapM (Variable.itemsIn operator data) with
      | error error => rfl
      | ok behind => exact congrArg Except.ok (Operator.layout_append member _ _)

theorem expand_query_append (genuine : data.Genuine) (leftSome : left ≠ [])
    (rightSome : right ≠ []) :
    expand ⟨.query, left ++ right, List.append_ne_nil_of_left_ne_nil leftSome right⟩ data = do
      let before ← expand ⟨.query, left, leftSome⟩ data
      if before = [] then expand ⟨.query, right, rightSome⟩ data
      else return before ++ (← expand ⟨.continuation, right, rightSome⟩ data) := by
  -- A variable has the same items in a continuation as in a query.
  have alike : Variable.itemsIn .query data = Variable.itemsIn .continuation data := rfl
  rw [expand_append_eq_bind genuine, expand_eq_map genuine, expand_eq_map genuine,
    expand_eq_map genuine, ← alike]
  cases left.mapM (Variable.itemsIn .query data) with
  | error error => rfl
  | ok before =>
      cases right.mapM (Variable.itemsIn .query data) with
      | error error => exact (ite_self _).symm
      | ok behind =>
          have whole := congrArg (Except.ok : Text → Except ShapeError Text)
            (Operator.layout_query_append before.flatten behind.flatten)
          exact whole.trans (apply_ite Except.ok _ _ _)

/-- The variables of an expression can be spread over two, in every context. Under the operators
that begin with their separator both have the same operator. Behind a query that expands to
something the second one is a continuation, and otherwise it is the query. -/
theorem expand_append {context : Datum} (genuine : context.Genuine)
    (made : Value.of context = .ok data) (leftSome : left ≠ []) (rightSome : right ≠ []) :
    (∀ operator ∈ [Operator.label, .path, .pathParam, .continuation],
        expand ⟨operator, left ++ right, List.append_ne_nil_of_left_ne_nil leftSome right⟩
          data = do
          let before ← expand ⟨operator, left, leftSome⟩ data
          let behind ← expand ⟨operator, right, rightSome⟩ data
          return before ++ behind) ∧
      expand ⟨.query, left ++ right, List.append_ne_nil_of_left_ne_nil leftSome right⟩ data = do
        let before ← expand ⟨.query, left, leftSome⟩ data
        if before = [] then expand ⟨.query, right, rightSome⟩ data
        else return before ++ (← expand ⟨.continuation, right, rightSome⟩ data) := by
  have valueGenuine := Value.genuine_of genuine made
  constructor
  · intro operator member
    exact expand_append_of_separatorFirst valueGenuine member leftSome rightSome
  · exact expand_query_append valueGenuine leftSome rightSome

/-- An undefined variable and an empty text before a list with one member that is left. -/
theorem expand_append_list :
    (Datum.mapping
        [(.text "x", .text []), (.text "y", .collection .list [.null, .text "a"])]).Genuine ∧
      expand ⟨.query, [⟨["z"], none, by simp⟩, ⟨["x"], none, by simp⟩] ++
          [⟨["y"], some .explode, by simp⟩], by simp⟩
        ⟨.mapping [(.text "x", .text []), (.text "y", .collection .list [.null, .text "a"])],
          .mapping⟩ = .ok "?x=&y=a" := by
  have genuine : (Datum.mapping
      [(.text "x", .text []), (.text "y", .collection .list [.null, .text "a"])]).Genuine := by
    apply Datum.Genuine.mapping
    · simp only [List.forall_mem_cons, List.not_mem_nil, false_imp_iff, implies_true, and_true]
      exact ⟨.text _, .text _⟩
    · simp only [List.forall_mem_cons, List.not_mem_nil, false_imp_iff, implies_true, and_true]
      constructor
      · exact .text _
      · apply Datum.Genuine.collection
        simp only [List.forall_mem_cons, List.not_mem_nil, false_imp_iff, implies_true, and_true]
        exact ⟨.null, .text _⟩
  have made : Value.of (.mapping
      [(.text "x", .text []), (.text "y", .collection .list [.null, .text "a"])]) =
    .ok ⟨.mapping [(.text "x", .text []), (.text "y", .collection .list [.null, .text "a"])],
      .mapping⟩ := rfl
  have leftSome : ([⟨["z"], none, by simp⟩, ⟨["x"], none, by simp⟩] : List Variable) ≠ [] :=
    List.cons_ne_nil _ _
  have rightSome : ([⟨["y"], some .explode, by simp⟩] : List Variable) ≠ [] :=
    List.cons_ne_nil _ _
  have split := (expand_append genuine made leftSome rightSome).2
  exact ⟨genuine, split.trans rfl⟩

end Expression

end UriTemplate
