import Mathlib.Data.List.Basic
import Mathlib.Data.List.Induction
import UriTemplate.Sink
import UriTemplate.Proofs.Except

/-!
# What an expansion depends on

A template names the variables that it looks up in its context: the first segments of all its
paths, each once, in the order of their first appearance. Nothing else in the context has a
bearing on the expansion. Two contexts in which these names lead to the same values give the same
expansion, and a sink is written the same chunks.
-/

set_option autoImplicit false

namespace UriTemplate

/-! ## Names -/

namespace Template

/-- The first segments of all paths in order. -/
def roots (template : Template) : List Text :=
  (template.expressions.flatMap (·.vars)).map Variable.root

/-- Names with one more name behind them, unless it is there already. -/
def addName (names : List Text) (name : Text) : List Text :=
  if names.contains name then names else names ++ [name]

/-- The names of a list, each at its first appearance. -/
def distinct (names : List Text) : List Text :=
  names.foldl addName []

theorem variableNames_eq (template : Template) :
    template.variableNames = distinct template.roots := by
  rw [distinct, roots, List.foldl_map]
  rfl

theorem distinct_concat (names : List Text) (name : Text) :
    distinct (names ++ [name]) = addName (distinct names) name := by
  rw [distinct, List.foldl_append]
  rfl

theorem mem_addName {names : List Text} {name other : Text} :
    other ∈ addName names name ↔ other ∈ names ∨ other = name := by
  rw [addName]
  split
  next known =>
    constructor
    · exact .inl
    · rintro (inside | rfl)
      · exact inside
      · simpa using known
  next => simp

theorem mem_distinct {names : List Text} {name : Text} :
    name ∈ distinct names ↔ name ∈ names := by
  induction names using List.reverseRecOn with
  | nil => rfl
  | append_singleton names last ih =>
      rw [distinct_concat, mem_addName, ih, List.mem_append, List.mem_singleton]

/-- The order of distinct names is that of their first appearance. -/
theorem pairwise_distinct (names : List Text) :
    (distinct names).Pairwise fun first second => names.idxOf first < names.idxOf second := by
  induction names using List.reverseRecOn with
  | nil => exact .nil
  | append_singleton names last ih =>
      -- One more name at the end moves no first appearance.
      have before : (distinct names).Pairwise fun first second =>
          (names ++ [last]).idxOf first < (names ++ [last]).idxOf second := by
        apply ih.imp_of_mem
        intro first second firstMember secondMember earlier
        rw [List.idxOf_append_of_mem (mem_distinct.mp firstMember),
          List.idxOf_append_of_mem (mem_distinct.mp secondMember)]
        exact earlier
      rw [distinct_concat, addName]
      split
      · exact before
      next unknown =>
        have absent : last ∉ names := by
          intro member
          exact unknown (List.contains_iff_mem.mpr (mem_distinct.mpr member))
        refine List.pairwise_append.mpr ⟨before, List.pairwise_singleton _ _, ?_⟩
        intro first firstMember other otherMember
        have inside := mem_distinct.mp firstMember
        rw [List.mem_singleton.mp otherMember, List.idxOf_append_of_mem inside,
          List.idxOf_append_of_notMem absent]
        exact Nat.lt_add_right _ (List.idxOf_lt_length_of_mem inside)

theorem nodup_distinct (names : List Text) : (distinct names).Nodup := by
  apply (pairwise_distinct names).imp
  intro first second earlier same
  rw [same] at earlier
  exact Nat.lt_irrefl _ earlier

theorem mem_variableNames {template : Template} {name : Text} :
    name ∈ template.variableNames ↔
      ∃ expression ∈ template.expressions, ∃ var ∈ expression.vars, var.root = name := by
  rw [variableNames_eq, mem_distinct, roots, List.mem_map]
  constructor
  · rintro ⟨var, member, same⟩
    rcases List.mem_flatMap.mp member with ⟨expression, inside, member⟩
    exact ⟨expression, inside, var, member, same⟩
  · rintro ⟨expression, inside, var, member, same⟩
    exact ⟨var, List.mem_flatMap.mpr ⟨expression, inside, member⟩, same⟩

theorem perm_sortedNames (template : Template) :
    template.sortedNames.Perm template.variableNames :=
  List.mergeSort_perm _ _

end Template

/-! ## Two contexts -/

/-- Two values in which some names lead to the same values. -/
def Value.AgreeOn (names : List Text) (first second : Value) : Prop :=
  ∀ name ∈ names, first.get name = second.get name

variable {first second : Value}

/-- A path is followed from its first segment on. -/
theorem Variable.resolve_congr {var : Variable}
    (same : first.get var.root = second.get var.root) :
    first.resolve var.path = second.resolve var.path := by
  rcases var with ⟨path, modifier, nonempty⟩
  cases path with
  | nil => contradiction
  | cons segment rest =>
      have here : first.get segment = second.get segment := same
      rw [Value.resolve, Value.resolve, here]

/-- An expression expands alike where all its variables are written alike. -/
theorem Expression.expand_congr {expression : Expression}
    (alike : ∀ var ∈ expression.vars, ∀ writer,
      var.write expression.operator first writer = var.write expression.operator second writer) :
    expression.expand first = expression.expand second := by
  rw [expand, expand]
  congr 1
  apply foldlM_congr
  intro writer var member
  exact alike var member writer

namespace Template

variable {template : Template}

/-- All paths of a template lead to the same values in two contexts. -/
def SamePaths (template : Template) (first second : Value) : Prop :=
  ∀ expression ∈ template.expressions, ∀ var ∈ expression.vars,
    first.resolve var.path = second.resolve var.path

theorem samePaths_of_agreeOn (agree : first.AgreeOn template.variableNames second) :
    template.SamePaths first second := by
  intro expression member var inside
  apply Variable.resolve_congr
  apply agree
  exact mem_variableNames.mpr ⟨expression, member, var, inside, rfl⟩

/-- All variables of a template are written alike in two contexts. -/
def WrittenAlike (template : Template) (first second : Value) : Prop :=
  ∀ expression ∈ template.expressions, ∀ var ∈ expression.vars, ∀ writer,
    var.write expression.operator first writer = var.write expression.operator second writer

theorem SamePaths.writtenAlike (same : template.SamePaths first second) :
    template.WrittenAlike first second := by
  intro expression member var inside writer
  rw [Variable.write, Variable.write, same expression member var inside]

theorem WrittenAlike.expandPart (alike : template.WrittenAlike first second) {part : Part}
    (member : part ∈ template.parts) : part.expand first = part.expand second := by
  cases part with
  | literal text => rfl
  | separator => rfl
  | expression body =>
      apply Expression.expand_congr
      exact alike body (List.mem_filterMap.mpr ⟨_, member, rfl⟩)

theorem WrittenAlike.expand (alike : template.WrittenAlike first second) :
    template.expand first = template.expand second :=
  congrArg (Except.map List.flatten) (mapM_congr fun _ member => alike.expandPart member)

theorem expandPart_congr (agree : first.AgreeOn template.variableNames second) {part : Part}
    (member : part ∈ template.parts) : part.expand first = part.expand second :=
  (samePaths_of_agreeOn agree).writtenAlike.expandPart member

theorem SamePaths.expand (same : template.SamePaths first second) :
    template.expand first = template.expand second :=
  same.writtenAlike.expand

end Template

theorem Part.expandAllTo_congr {parts : List Part}
    (same : ∀ part ∈ parts, part.expand first = part.expand second) (sink : Sink) :
    expandAllTo first parts sink = expandAllTo second parts sink := by
  induction parts generalizing sink with
  | nil => rfl
  | cons part rest ih =>
      have tail := ih fun other member => same other (by simp [member])
      rw [expandAllTo, expandAllTo, same part (by simp)]
      simp only [tail]

namespace Template

/-- An expansion depends on nothing in the context but what the names of the template lead to, and
neither does what a sink is written. Those names are the first segments of all paths, each once,
in the order of their first appearance. -/
theorem expand_eq_of_agreeOn {firstContext secondContext : Datum} (template : Template)
    (firstMade : Value.of firstContext = .ok first)
    (secondMade : Value.of secondContext = .ok second)
    (agree : first.AgreeOn template.sortedNames second) :
    (Value.of firstContext >>= template.expand) = (Value.of secondContext >>= template.expand) ∧
      (∀ sink, template.expandTo first sink = template.expandTo second sink) ∧
      template.variableNames.Nodup ∧
      (∀ name, name ∈ template.variableNames ↔
        ∃ expression ∈ template.expressions, ∃ var ∈ expression.vars, var.root = name) ∧
      (template.variableNames.Pairwise fun earlier later =>
        template.roots.idxOf earlier < template.roots.idxOf later) ∧
      template.sortedNames.Perm template.variableNames := by
  have names : first.AgreeOn template.variableNames second := by
    intro name member
    exact agree name (template.perm_sortedNames.mem_iff.mpr member)
  have same : ∀ part ∈ template.parts, part.expand first = part.expand second := by
    intro part member
    exact expandPart_congr names member
  refine ⟨?_, Part.expandAllTo_congr same, ?_, fun name => mem_variableNames, ?_,
    template.perm_sortedNames⟩
  · rw [firstMade, secondMade]
    exact congrArg (Except.map List.flatten) (mapM_congr same)
  · rw [variableNames_eq]
    exact nodup_distinct _
  · rw [variableNames_eq]
    exact pairwise_distinct _

/-- Two mappings that have one entry in common, at different places. -/
theorem expand_eq_of_agreeOn_mapping :
    (⟨.mapping [(.text "x", .mapping [(.text "y", .int 1)]), (.text "z", .int 2)],
        .mapping⟩ : Value).AgreeOn
      (sortedNames ⟨[.expression ⟨.query, [⟨["x", "y"], none, by simp⟩], by simp⟩]⟩)
      ⟨.mapping [(.text "y", .null), (.text "x", .mapping [(.text "y", .int 1)])], .mapping⟩ ∧
    expand ⟨[.expression ⟨.query, [⟨["x", "y"], none, by simp⟩], by simp⟩]⟩
        ⟨.mapping [(.text "x", .mapping [(.text "y", .int 1)]), (.text "z", .int 2)], .mapping⟩ =
      expand ⟨[.expression ⟨.query, [⟨["x", "y"], none, by simp⟩], by simp⟩]⟩
        ⟨.mapping [(.text "y", .null), (.text "x", .mapping [(.text "y", .int 1)])],
          .mapping⟩ := by
  have agree : (⟨.mapping [(.text "x", .mapping [(.text "y", .int 1)]), (.text "z", .int 2)],
        .mapping⟩ : Value).AgreeOn
      (sortedNames ⟨[.expression ⟨.query, [⟨["x", "y"], none, by simp⟩], by simp⟩]⟩)
      ⟨.mapping [(.text "y", .null), (.text "x", .mapping [(.text "y", .int 1)])],
        .mapping⟩ := by
    intro name member
    have only : name ∈ [("x" : Text)] := (perm_sortedNames _).mem_iff.mp member
    rw [List.mem_singleton.mp only]
    rfl
  exact ⟨agree, (expand_eq_of_agreeOn _ (Value.of_toDatum _) (Value.of_toDatum _) agree).1⟩

end Template

end UriTemplate
