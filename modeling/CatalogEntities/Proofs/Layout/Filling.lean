import CatalogEntities.Layout.Template

/-!
What pieces of a template lay out: texts, outputs of texts, and parts repeated for every item of a
list.
-/

namespace CatalogEntities.Layout

/-- Lines with an end after each. -/
def layOut : List String → String
  | [] => ""
  | l :: rest => l ++ "\n" ++ layOut rest

theorem layOut_append (xs ys : List String) : layOut (xs ++ ys) = layOut xs ++ layOut ys := by
  induction xs with
  | nil => rw [List.nil_append, layOut, String.empty_append]
  | cons l rest ih => simp only [List.cons_append, layOut, ih, String.append_assoc]

variable {names : Names}

theorem fill_cons {p : Piece} {rest : Template} {head tail : String} (hp : p.fill names = .ok head)
    (hrest : Template.fill rest names = .ok tail) :
    Template.fill (p :: rest) names = .ok (head ++ tail) := by
  simp only [Template.fill, hp, hrest, bind, Except.bind, pure, Except.pure]

theorem fill_singleton {p : Piece} {text : String} (hp : p.fill names = .ok text) :
    Template.fill [p] names = .ok text := by
  simpa only [String.append_empty] using fill_cons hp (Template.fill.eq_1 names)

theorem fill_append {before after : Template} {head tail : String}
    (hbefore : Template.fill before names = .ok head)
    (hafter : Template.fill after names = .ok tail) :
    Template.fill (before ++ after) names = .ok (head ++ tail) := by
  induction before generalizing head with
  | nil =>
    obtain rfl := Except.ok.inj ((Template.fill.eq_1 names).symm.trans hbefore)
    rw [List.nil_append, String.empty_append]
    exact hafter
  | cons p rest ih =>
    rw [Template.fill] at hbefore
    cases hp : p.fill names with
    | error fault => simp [hp, bind, Except.bind] at hbefore
    | ok first =>
      cases hrest : Template.fill rest names with
      | error fault => simp [hp, hrest, bind, Except.bind] at hbefore
      | ok more =>
        simp only [hp, hrest, bind, Except.bind, pure, Except.pure, Except.ok.injEq] at hbefore
        rw [← hbefore, String.append_assoc]
        exact fill_cons hp (ih hrest)

theorem fill_text (s : String) : Piece.fill (.text s) names = .ok s := by
  rw [Piece.fill]

theorem value_of_lookup {name : String} {v : Value} (hname : names.lookup name = some v) :
    Reference.value names ⟨name, none⟩ = .ok v := by
  simp only [Reference.value, hname]

/-- A field of a value that is laid out by its fields. -/
theorem value_of_field {name field : String} {entries : List (Value × Value)} {v : Value}
    (hname : names.lookup name = some (.map entries))
    (hfield : Value.field? entries field = some v) :
    Reference.value names ⟨name, some field⟩ = .ok v := by
  simp only [Reference.value, hname, hfield]

theorem fill_outputOf {r : Reference} {s : String} (hvalue : r.value names = .ok (.text s)) :
    Piece.fill (.output r) names = .ok s := by
  simp only [Piece.fill, hvalue, Except.map, Value.display]

theorem fill_output {name s : String} (hname : names.lookup name = some (.text s)) :
    Piece.fill (.output ⟨name, none⟩) names = .ok s :=
  fill_outputOf (value_of_lookup hname)

/-- A part repeated for every item lays out the lines of all items in order. -/
theorem fill_eachOf {α : Type} {xs : List α} {value : α → Value} {item : String}
    {source : Reference} {body : Template} (shown : α → List String)
    (hsource : source.value names = .ok (.list (xs.map value)))
    (hbody : ∀ x, Template.fill body ((item, value x) :: names) = .ok (layOut (shown x))) :
    Piece.fill (.each item source body) names = .ok (layOut (xs.flatMap shown)) := by
  have hall : gather (fun v => Template.fill body ((item, v) :: names)) (xs.map value) =
      .ok (layOut (xs.flatMap shown)) := by
    clear hsource
    induction xs with
    | nil => rfl
    | cons x rest ih =>
      simp only [List.map_cons, gather, hbody x, ih, List.flatMap_cons, layOut_append, bind,
        Except.bind, pure, Except.pure]
  simp only [Piece.fill, hsource, items, bind, Except.bind, hall]

theorem fill_each {α : Type} {xs : List α} {value : α → Value} {item source : String}
    {body : Template} (shown : α → List String)
    (hsource : names.lookup source = some (.list (xs.map value)))
    (hbody : ∀ x, Template.fill body ((item, value x) :: names) = .ok (layOut (shown x))) :
    Piece.fill (.each item ⟨source, none⟩ body) names = .ok (layOut (xs.flatMap shown)) :=
  fill_eachOf shown (value_of_lookup hsource) hbody

theorem fill_eachLineOf {item : String} {source : Reference} (indent : String) {texts : List String}
    (hsource : source.value names = .ok (.list (texts.map .text))) :
    Piece.fill (.each item source [.text indent, .output ⟨item, none⟩, .text "\n"]) names =
      .ok (layOut (texts.map (indent ++ ·))) := by
  rw [List.map_eq_flatMap]
  refine fill_eachOf (fun t => [indent ++ t]) hsource fun t => ?_
  refine (fill_cons (fill_text _) (fill_cons (fill_output (List.lookup_cons_self ..))
    (fill_singleton (fill_text _)))).trans ?_
  simp only [layOut, String.append_empty, String.append_assoc]

theorem fill_eachLine {item source : String} (indent : String) {texts : List String}
    (hsource : names.lookup source = some (.list (texts.map .text))) :
    Piece.fill (.each item ⟨source, none⟩ [.text indent, .output ⟨item, none⟩, .text "\n"]) names =
      .ok (layOut (texts.map (indent ++ ·))) :=
  fill_eachLineOf indent (value_of_lookup hsource)

/-- A group of lines with an empty line before it. -/
theorem fill_group {item source : String} {texts : List String}
    (hsource : names.lookup source = some (.list (texts.map .text))) :
    Template.fill [.text "\n",
      .each item ⟨source, none⟩ [.text "", .output ⟨item, none⟩, .text "\n"]] names =
        .ok (layOut ("" :: texts)) := by
  refine (fill_cons (fill_text _) (fill_singleton (fill_eachLine "" hsource))).trans ?_
  simp only [layOut, String.empty_append, List.map_id']

theorem fill_when {source : String} {vs : List Value} (body : Template)
    (hsource : names.lookup source = some (.list vs)) :
    Piece.fill (.when ⟨source, none⟩ body) names =
      if vs.isEmpty then .ok "" else Template.fill body names := by
  cases vs <;> simp only [Piece.fill, Reference.value, hsource, bind, Except.bind, Value.truth] <;>
    rfl

end CatalogEntities.Layout
