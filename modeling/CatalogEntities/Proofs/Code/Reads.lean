import CatalogEntities.Proofs.Code.Scope
import CatalogEntities.Proofs.Outcome

/-!
The names that an expression reads, read off the way it was put together.
-/

namespace CatalogEntities.Code

theorem Expr.readsAll_eq (es : List Expr) : Expr.readsAll es = es.flatMap Expr.reads := by
  induction es with
  | nil => rfl
  | cons e rest ih => rw [Expr.readsAll, List.flatMap_cons, ih]

theorem Argument.readsAll_eq (arguments : List Argument) :
    Argument.readsAll arguments = arguments.flatMap Argument.reads := by
  induction arguments with
  | nil => rfl
  | cons a rest ih => rw [Argument.readsAll, List.flatMap_cons, ih]

namespace Expr

@[simp] theorem reads_name (id : String) : (Expr.name id).reads = [id] := rfl

@[simp] theorem reads_field (object : Expr) (name : String) :
    (Expr.field object name).reads = object.reads := rfl

@[simp] theorem reads_text (s : String) : (Expr.text s).reads = [] := rfl

@[simp] theorem reads_bool (b : Bool) : (Expr.bool b).reads = [] := rfl

@[simp] theorem reads_int (n : Int) : (Expr.int n).reads = [] := rfl

@[simp] theorem reads_float (x : Number.Binary64) : (Expr.float x).reads = [] := rfl

@[simp] theorem reads_subscript (container : Expr) (items : List Expr) :
    (Expr.subscript container items).reads = container.reads ++ items.flatMap reads := by
  rw [reads, readsAll_eq]

/-- Keywords are no names of the module; their values are read. -/
@[simp] theorem reads_apply (function : Expr) (arguments : List Expr)
    (keywords : List (String × Expr)) :
    (Expr.apply function arguments keywords).reads =
      function.reads ++ (arguments.flatMap reads ++ keywords.flatMap fun k => k.2.reads) := by
  rw [apply, reads, Argument.readsAll_eq, List.flatMap_append, List.flatMap_map, List.flatMap_map]
  rfl

end Expr

@[simp] theorem Statement.reads_annotated (target : String) (hint value : Expr) :
    (Statement.annotated target hint (some value)).reads = value.reads ++ hint.reads := rfl

/-- Where every statement binds its target only, a name keeps what it stands for throughout exactly
if none of the targets stands for the same name. -/
theorem Scope.keeps_iff {stored : String → String} {statements : List Statement}
    {targets : List String} {name : String}
    (htargets : List.Forall₂
      (fun s target => s.bindings = [(target, Meaning.assigned)]) statements targets) :
    (∀ (scope : Scope) before, before <+: statements →
      (scope.run stored before).get? name = scope.get? name) ↔ name ∉ targets.map stored := by
  have hbound {s : Statement} {target : String}
      (hbinds : s.bindings = [(target, Meaning.assigned)]) :
      (s.bindingsUnder stored).keys = [stored target] := by
    rw [Statement.keys_bindingsUnder, hbinds]; rfl
  constructor
  · intro hkept hname
    obtain ⟨target, htarget, rfl⟩ := List.mem_map.mp hname
    obtain ⟨s, hs, hbinds⟩ := Outcome.mem_right htargets htarget
    have hin : stored target ∈ (s.bindingsUnder stored).keys := by
      rw [hbound hbinds]
      exact List.mem_singleton_self _
    obtain ⟨s', -, m, -, hget⟩ := Scope.get?_run_of_bound [] ⟨s, hs, hin⟩
    rw [hkept [] statements (List.prefix_refl _)] at hget
    contradiction
  · intro hname scope before hbefore
    refine Scope.get?_run_of_not_bound fun s hs hin => hname ?_
    obtain ⟨target, htarget, hbinds⟩ := Outcome.mem_left htargets (hbefore.subset hs)
    rw [hbound hbinds] at hin
    exact List.mem_singleton.mp hin ▸ List.mem_map_of_mem htarget

end CatalogEntities.Code
