import CatalogEntities.Layout.Page

/-!
Shapes of values, and templates that fit them. A template that fits the shapes of its names can be
filled from any values of these shapes; both templates fit the shapes of their pages.
-/

namespace CatalogEntities.Layout

/-- What a template relies on in a value: nothing, a list, or fields. -/
inductive Shape
  | plain
  | list (item : Shape)
  | record (fields : List (String × Shape))

/-- The shape of a field. -/
def Shape.field? : Shape → String → Option Shape
  | .record fields, name => fields.lookup name
  | _, _ => none

inductive HasShape : Shape → Value → Prop
  | plain (v : Value) : HasShape .plain v
  | list {s : Shape} {vs : List Value} : (∀ v ∈ vs, HasShape s v) → HasShape (.list s) (.list vs)
  | record {fields : List (String × Shape)} {entries : List (Value × Value)}
    (value : String → Value) :
      (∀ name s, fields.lookup name = some s → Value.field? entries name = some (value name)) →
      (∀ name s, fields.lookup name = some s → HasShape s (value name)) →
      HasShape (.record fields) (.map entries)

theorem HasShape.field? {s s' : Shape} {v : Value} (h : HasShape s v) {name : String}
    (hs : s.field? name = some s') :
    ∃ entries inner, v = .map entries ∧ Value.field? entries name = some inner ∧
    HasShape s' inner := by
  cases h with
  | plain v => cases hs
  | list hall => cases hs
  | record value hfound hall => exact ⟨_, value name, rfl, hfound name s' hs, hall name s' hs⟩

/-- Shapes of named values. -/
abbrev Shapes := List (String × Shape)

/-- Every name has a value of its shape. -/
def HaveShapes (shapes : Shapes) (names : Names) : Prop :=
  ∀ name s, shapes.lookup name = some s → ∃ v, names.lookup name = some v ∧ HasShape s v

def Reference.shape? (shapes : Shapes) (r : Reference) : Option Shape :=
  (shapes.lookup r.base).bind fun s =>
    match r.field with
    | none => some s
    | some field => s.field? field

mutual

/-- Whether a piece uses only names and fields that there are, and repeats only over lists. -/
def Piece.fits (shapes : Shapes) : Piece → Bool
  | .text _ => true
  | .output r => (r.shape? shapes).isSome
  | .each item source body =>
    match source.shape? shapes with
    | some (.list s) => Template.fits ((item, s) :: shapes) body
    | _ => false
  | .when condition body => (condition.shape? shapes).isSome && Template.fits shapes body

def Template.fits (shapes : Shapes) : List Piece → Bool
  | [] => true
  | p :: rest => p.fits shapes && Template.fits shapes rest

end

theorem HaveShapes.nil : HaveShapes [] [] := by
  intro name s hs
  cases hs

theorem HaveShapes.cons {shapes : Shapes} {names : Names} (h : HaveShapes shapes names)
    {item : String} {s : Shape} {v : Value} (hv : HasShape s v) :
    HaveShapes ((item, s) :: shapes) ((item, v) :: names) := by
  intro name s' hs'
  rw [List.lookup_cons] at hs' ⊢
  split at hs'
  · obtain rfl := Option.some.inj hs'
    exact ⟨v, rfl, hv⟩
  · exact h name s' hs'

theorem Reference.value_of_shape {shapes : Shapes} {names : Names} (h : HaveShapes shapes names)
    {r : Reference} {s : Shape} (hs : r.shape? shapes = some s) :
    ∃ v, r.value names = .ok v ∧ HasShape s v := by
  obtain ⟨owner, howner, hfield⟩ := Option.bind_eq_some_iff.mp hs
  obtain ⟨v, hv, hshape⟩ := h _ _ howner
  cases hr : r.field with
  | none =>
    rw [hr] at hfield
    obtain rfl := Option.some.inj hfield
    exact ⟨v, by simp only [value, hv, hr], hshape⟩
  | some name =>
    rw [hr] at hfield
    obtain ⟨entries, inner, rfl, hinner, hs'⟩ := hshape.field? hfield
    exact ⟨inner, by simp only [value, hv, hr, hinner], hs'⟩

theorem gather_total {α : Type} {f : α → Except TemplateFault String} {xs : List α}
    (h : ∀ x ∈ xs, ∃ text, f x = .ok text) : ∃ text, gather f xs = .ok text := by
  induction xs with
  | nil => exact ⟨"", rfl⟩
  | cons x rest ih =>
    obtain ⟨head, hhead⟩ := h x List.mem_cons_self
    obtain ⟨tail, htail⟩ := ih fun y hy => h y (List.mem_cons_of_mem _ hy)
    exact ⟨head ++ tail, by simp only [gather, hhead, htail, bind, Except.bind, pure, Except.pure]⟩

mutual

theorem Piece.fill_total (p : Piece) {shapes : Shapes} {names : Names} (h : HaveShapes shapes names)
    (hfits : p.fits shapes) : ∃ text, p.fill names = .ok text := by
  cases p with
  | text s => exact ⟨s, by simp only [Piece.fill]⟩
  | output r =>
    obtain ⟨s, hs⟩ := Option.isSome_iff_exists.mp (by simpa only [Piece.fits] using hfits)
    obtain ⟨v, hv, -⟩ := Reference.value_of_shape h hs
    exact ⟨v.display, by simp only [Piece.fill, hv, Except.map]⟩
  | each item source body =>
    simp only [Piece.fits] at hfits
    split at hfits
    · rename_i s hs
      obtain ⟨v, hv, hshape⟩ := Reference.value_of_shape h hs
      cases hshape with
      | list hall =>
        obtain ⟨text, htext⟩ :=
          gather_total fun v hv => Template.fill_total body (h.cons (hall v hv)) hfits
        exact ⟨text, by simp only [Piece.fill, hv, items, htext, bind, Except.bind]⟩
    · cases hfits
  | when condition body =>
    rw [Piece.fits, Bool.and_eq_true] at hfits
    obtain ⟨s, hs⟩ := Option.isSome_iff_exists.mp hfits.1
    obtain ⟨v, hv, -⟩ := Reference.value_of_shape h hs
    obtain ⟨text, htext⟩ := Template.fill_total body h hfits.2
    cases htruth : v.truth with
    | true =>
      exact ⟨text, by simp only [Piece.fill, hv, htruth, htext, bind, Except.bind, ↓reduceIte]⟩
    | false =>
      exact ⟨"", by simp only [Piece.fill, hv, htruth, bind, Except.bind, Bool.false_eq_true,
        ↓reduceIte, pure, Except.pure]⟩

/-- A template that fits the shapes of its names can be filled. -/
theorem Template.fill_total (t : List Piece) {shapes : Shapes} {names : Names}
    (h : HaveShapes shapes names) (hfits : Template.fits shapes t) :
    ∃ text, Template.fill t names = .ok text := by
  cases t with
  | nil => exact ⟨"", by simp only [Template.fill]⟩
  | cons p rest =>
    rw [Template.fits, Bool.and_eq_true] at hfits
    obtain ⟨head, hhead⟩ := Piece.fill_total p h hfits.1
    obtain ⟨tail, htail⟩ := Template.fill_total rest h hfits.2
    exact ⟨head ++ tail, by
      simp only [Template.fill, hhead, htail, bind, Except.bind, pure, Except.pure]⟩

end

theorem field?_texts (fields : List (String × Value)) (name : String) :
    Value.field? (fields.map fun (key, v) => (.text key, v)) name = fields.lookup name := by
  induction fields with
  | nil => rfl
  | cons head rest ih =>
    obtain ⟨key, v⟩ := head
    have hkey : ((Value.text name) == .text key) = (name == key) := by
      change Value.sameKey (.text name) (.text key) = _
      rw [Value.sameKey]
    simp only [Value.field?, Assoc.get?, List.map_cons, List.lookup_cons, hkey] at ih ⊢
    rw [ih]

theorem hasShape_record {shapes : Shapes} {fields : List (String × Value)}
    (h : HaveShapes shapes fields) :
    HasShape (.record shapes) (.map (fields.map fun (key, v) => (.text key, v))) := by
  refine .record (fun name => (fields.lookup name).getD .null) ?_ ?_
  · intro name s hs
    obtain ⟨v, hv, -⟩ := h name s hs
    rw [field?_texts, hv, Option.getD_some]
  · intro name s hs
    obtain ⟨v, hv, hshape⟩ := h name s hs
    rw [hv, Option.getD_some]
    exact hshape

theorem hasShape_texts (items : List String) : HasShape (.list .plain) (.list (items.map .text)) :=
  .list fun v _ => .plain v

theorem hasShape_map {α : Type} {s : Shape} {f : α → Value} (xs : List α)
    (h : ∀ x ∈ xs, HasShape s (f x)) : HasShape (.list s) (.list (xs.map f)) := by
  refine .list fun v hv => ?_
  obtain ⟨x, hx, rfl⟩ := List.mem_map.mp hv
  exact h x hx

def enumShape : Shape :=
  .record [("name", .plain), ("members", .list (.record [("name", .plain), ("value", .plain)]))]

def columnShape : Shape := .record [("comment_lines", .list .plain), ("statement", .plain)]

def entityShapes : Shapes := [
  ("header_lines", .list .plain), ("import_groups", .list (.list .plain)),
  ("type_checking_imports", .list .plain), ("enums", .list enumShape), ("class_name", .plain),
  ("base_class", .plain), ("table_name", .plain), ("columns", .list columnShape),
  ("mapper_args", .plain), ("relation_sections", .list (.list .plain))]

def entryShapes : Shapes := [
  ("header_lines", .list .plain), ("import_groups", .list (.list .plain)),
  ("entity_imports", .list .plain), ("entities_assign", .plain), ("data_source_assign", .plain),
  ("all_assign", .plain)]

theorem EntityPage.haveShapes (p : EntityPage) : HaveShapes entityShapes p.names := by
  have hgroups (groups : List (List String)) :
      HasShape (.list (.list .plain)) (.list (groups.map fun g => .list (g.map .text))) :=
    hasShape_map groups fun g _ => hasShape_texts g
  refine .cons (.cons (.cons (.cons (.cons (.cons (.cons (.cons (.cons (.cons .nil
    (hgroups _)) (.plain _)) (hasShape_map _
      fun c _ => ?column)) (.plain _)) (.plain _)) (.plain _))
    (hasShape_map _ fun e _ => ?enum)) (hasShape_texts _)) (hgroups _)) (hasShape_texts _)
  case column => exact hasShape_record ((HaveShapes.nil.cons (.plain _)).cons (hasShape_texts _))
  case enum =>
    refine hasShape_record ((HaveShapes.nil.cons (hasShape_map _ fun m _ => ?_)).cons (.plain _))
    exact hasShape_record ((HaveShapes.nil.cons (.plain _)).cons (.plain _))

theorem EntryPage.haveShapes (p : EntryPage) : HaveShapes entryShapes p.names :=
  .cons (.cons (.cons (.cons (.cons (.cons .nil (.plain _)) (.plain _)) (.plain _))
    (hasShape_texts _)) (hasShape_map _ fun g _ => hasShape_texts g)) (hasShape_texts _)

theorem EntityPage.source_total (p : EntityPage) : ∃ code, p.source = .ok code :=
  Template.fill_total entityTemplate p.haveShapes (by decide +kernel)

theorem EntryPage.source_total (p : EntryPage) : ∃ code, p.source = .ok code :=
  Template.fill_total entryTemplate p.haveShapes (by decide +kernel)

end CatalogEntities.Layout
