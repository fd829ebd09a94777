import CatalogEntities.Code.Expr
import CatalogEntities.Proofs.Assoc
import CatalogEntities.Text.Normal

/-!
What names stand for while statements run one after the other, those of a package's own module or of
a class. A neighbour that is imported from is bound by the name of its module, besides the names
that are asked for. Names are not compared as they are written: `stored` gives the name that a
written one stands for, which is its normal form in a module and `storedName` in a class.
-/

namespace CatalogEntities.Code

/-- What a name stands for. -/
inductive Meaning
  /-- A module, or a name of it; `level` counts the points in front of the module. -/
  | imported (level : Nat) (module : String) (name : Option String)
  | assigned
  deriving DecidableEq, Repr

/-- The meaning of an import under the names that it stands for. -/
def Meaning.under (stored : String → String) : Meaning → Meaning
  | .imported level module name => .imported level (stored module) (name.map stored)
  | .assigned => .assigned

mutual

/-- The names that evaluation looks up, in order. -/
def Expr.reads : Expr → List String
  | .name id => [id]
  | .field object _ => object.reads
  | .text _ => []
  | .bool _ => []
  | .int _ => []
  | .float _ => []
  | .list items => Expr.readsAll items
  | .dict entries => Entry.readsAll entries
  | .subscript container items => container.reads ++ Expr.readsAll items
  | .call function arguments => function.reads ++ Argument.readsAll arguments

def Expr.readsAll : List Expr → List String
  | [] => []
  | e :: rest => e.reads ++ Expr.readsAll rest

def Entry.reads : Entry → List String
  | .mk key value => key.reads ++ value.reads

def Entry.readsAll : List Entry → List String
  | [] => []
  | e :: rest => e.reads ++ Entry.readsAll rest

def Argument.reads : Argument → List String
  | .positional value => value.reads
  | .keyword _ value => value.reads

def Argument.readsAll : List Argument → List String
  | [] => []
  | a :: rest => a.reads ++ Argument.readsAll rest

end

namespace Statement

def reads : Statement → List String
  | .expression value => value.reads
  | .assign _ value => value.reads
  | .annotated _ hint value => (value.map Expr.reads).getD [] ++ hint.reads
  | .importModule _ => []
  | .importNames _ _ _ => []

/-- A dotted module is bound by its first part. -/
def boundName (module : String) : String := String.ofList (module.toList.takeWhile (· != '.'))

/-- The names that a statement binds, as it has them, in order. -/
def bindings : Statement → Assoc String Meaning
  | .expression _ => []
  | .assign target _ => [(target, .assigned)]
  | .annotated target _ value => if value.isSome then [(target, .assigned)] else []
  | .importModule module => [(boundName module, .imported 0 (boundName module) none)]
  | .importNames level module names =>
    (if level == 1 then [(boundName module, .imported level (boundName module) none)] else []) ++
      names.map fun name => (name, .imported level module (some name))

/-- What a statement binds under the names that it stands for. -/
def bindingsUnder (stored : String → String) (s : Statement) : Assoc String Meaning :=
  s.bindings.map fun binding => (stored binding.1, binding.2.under stored)

theorem keys_bindingsUnder (stored : String → String) (s : Statement) :
    (s.bindingsUnder stored).keys = s.bindings.keys.map stored := by
  simp [bindingsUnder, Assoc.keys, Function.comp_def]

end Statement

/-- Names in force and what they stand for. -/
abbrev Scope := Assoc String Meaning

namespace Scope

variable (stored : String → String)

def run (scope : Scope) (statements : List Statement) : Scope :=
  statements.foldl (fun scope s => scope.update (s.bindingsUnder stored)) scope

/-- Wherever one of the statements reads the name, it stands for `m` there. -/
def ReadsAs (name : String) (m : Meaning) (scope : Scope) : List Statement → Prop
  | [] => True
  | s :: rest =>
    (name ∈ s.reads.map stored → scope.get? name = some m) ∧
      ReadsAs name m (scope.update (s.bindingsUnder stored)) rest

variable {stored} {name : String} {m : Meaning} {scope : Scope} {s : Statement}
    {statements : List Statement}

theorem get?_step_of_not_bound (h : name ∉ (s.bindingsUnder stored).keys) :
    (scope.update (s.bindingsUnder stored)).get? name = scope.get? name := by
  have hnone : (s.bindingsUnder stored).reverse.lookup name = none := by
    refine List.lookup_eq_none_iff.mpr fun pair hpair => bne_iff_ne.mpr ?_
    rintro rfl
    exact h (List.mem_map_of_mem (List.mem_reverse.mp hpair))
  rw [Assoc.get?_update, hnone, Option.none_or]

theorem get?_step_of_bound (scope : Scope) (h : name ∈ (s.bindingsUnder stored).keys) :
    ∃ m, (name, m) ∈ s.bindingsUnder stored ∧
    (scope.update (s.bindingsUnder stored)).get? name = some m := by
  obtain ⟨m, hm⟩ := Assoc.get?_ofPairs_of_mem h
  refine ⟨m, Assoc.mem_of_get?_ofPairs hm, ?_⟩
  rw [Assoc.get?_ofPairs] at hm
  rw [Assoc.get?_update, hm, Option.some_or]

/-- A name that no statement binds stands for what it stood for. -/
theorem get?_run_of_not_bound (h : ∀ s ∈ statements, name ∉ (s.bindingsUnder stored).keys) :
    (scope.run stored statements).get? name = scope.get? name := by
  induction statements generalizing scope with
  | nil => rfl
  | cons s rest ih =>
    have hrest : ∀ s ∈ rest, name ∉ (s.bindingsUnder stored).keys :=
      fun s hs => h s (List.mem_cons_of_mem _ hs)
    exact (ih hrest).trans (get?_step_of_not_bound (h s List.mem_cons_self))

/-- A name that some statement binds stands for what one of them gave it. -/
theorem get?_run_of_bound (scope : Scope)
    (h : ∃ s ∈ statements, name ∈ (s.bindingsUnder stored).keys) :
    ∃ s ∈ statements, ∃ m, (name, m) ∈ s.bindingsUnder stored ∧
      (scope.run stored statements).get? name = some m := by
  induction statements generalizing scope with
  | nil =>
    obtain ⟨s, hs, -⟩ := h
    exact absurd hs List.not_mem_nil
  | cons s rest ih =>
    by_cases hlater : ∃ s ∈ rest, name ∈ (s.bindingsUnder stored).keys
    · obtain ⟨s', hs', m, hm, hget⟩ := ih (scope.update (s.bindingsUnder stored)) hlater
      exact ⟨s', List.mem_cons_of_mem _ hs', m, hm, hget⟩
    · -- the first statement is then the last one that binds the name
      push Not at hlater
      have hfirst : name ∈ (s.bindingsUnder stored).keys := by
        obtain ⟨s', hs', hname⟩ := h
        rcases List.mem_cons.mp hs' with rfl | hrest
        · exact hname
        · exact absurd hname (hlater s' hrest)
      obtain ⟨m, hm, hget⟩ := get?_step_of_bound scope hfirst
      exact ⟨s, List.mem_cons_self, m, hm, (get?_run_of_not_bound hlater).trans hget⟩

/-- The module of a neighbour hides a library module of the same name, however the name
is written. -/
example : ((Scope.run Text.nfkc [] [.importModule "os", .importNames 1 "ｏｓ" ["Os"]]).get? "os") =
    some (.imported 1 "os" none) := by decide +kernel

theorem readsAs_append {before after : List Statement} :
    ReadsAs stored name m scope (before ++ after) ↔
    ReadsAs stored name m scope before ∧ ReadsAs stored name m (scope.run stored before) after := by
  induction before generalizing scope with
  | nil => exact (and_iff_right trivial).symm
  | cons s rest ih => rw [List.cons_append, ReadsAs, ih, ReadsAs, and_assoc]; rfl

/-- A name that is not bound again keeps its meaning. -/
theorem readsAs_of_not_bound (hget : scope.get? name = some m)
    (h : ∀ s ∈ statements, name ∉ (s.bindingsUnder stored).keys) :
    ReadsAs stored name m scope statements := by
  induction statements generalizing scope with
  | nil => trivial
  | cons s rest ih =>
    refine ⟨fun _ => hget, ih ?_ fun s hs => h s (List.mem_cons_of_mem _ hs)⟩
    rw [get?_step_of_not_bound (h s List.mem_cons_self), hget]

theorem readsAs_of_not_read (h : ∀ s ∈ statements, name ∉ s.reads.map stored) :
    ReadsAs stored name m scope statements := by
  induction statements generalizing scope with
  | nil => trivial
  | cons s rest ih =>
    exact ⟨fun hread => absurd hread (h s List.mem_cons_self),
      ih fun s hs => h s (List.mem_cons_of_mem _ hs)⟩

end Scope

end CatalogEntities.Code
