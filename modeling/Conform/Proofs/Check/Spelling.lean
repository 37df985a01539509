import Conform.Proofs.Check.Revision
import Conform.Proofs.Schema.Respelling

/-!
# Spellings and verdicts

A check comes to the same result on the long form of a node, where the two are
checked by different functions as well: a bare tag by its type alone, the
specification of a tag part by part.  Schemas that are respelled have one long
form, so they have one verdict on every input, and one report.
-/
namespace Conform

section
variable {p : Policy} {s : Spec} {input : Option Json} {here : Path} {inEnum : Bool} {v : Json}

/-- A specification that declares only a tag asks for no more than the tag, unless
that is `object`. -/
theorem checkFacets_ofTag {name : String} {tag : TypeTag} (h : tag ≠ .object) :
    checkFacets p (.ofTag name) tag v here = .ok () := by
  cases tag with
  | object => exact absurd rfl h
  | string | number | integer | decimal | boolean | null | array => cases v <;> rfl

theorem checkNode_ofTag (name : String) :
    checkNode p (.ofTag name) input here inEnum = checkNode p (.tag name) input here inEnum := by
  unfold Node.ofTag
  by_cases hn : name = "object"
  · rw [if_pos hn]
  rw [if_neg hn, checkNode_spec]
  cases input with
  | none => exact checkSpec_none p here inEnum TypeRef.noConfusion
  | some v =>
    rw [checkSpec_tag p v here inEnum rfl]
    change (checkTag p name v here {} >>= fun found => _) =
      (checkTag p name v here {} >>= fun _ => _)
    cases ht : checkTag p name v here {} with
    | error i => rfl
    | ok found =>
      cases found with
      | none => rfl
      | some tag =>
        apply checkFacets_ofTag
        rintro rfl
        exact hn (TypeTag.name_of_parse? (checkTag_eq_some ht).1).symm

/-- For a value that is present an enumeration is checked as the type it is. -/
theorem checkNode_present (n : Node) :
    checkNode p n.present (some v) here inEnum = checkNode p n (some v) here inEnum := by
  cases n with
  | tag | spec => rfl
  | enum members =>
    have htype : (Spec.ofEnum members).type = .enum members := rfl
    rw [Node.present, checkNode_spec, checkSpec_enum p v here inEnum htype, checkNode_enum]
    rfl

end

theorem Revision.lengthen_unnoticed (p : Policy) : lengthen.Unnoticed () p where
  inner := rfl
  tag name _ _ _ := checkNode_ofTag name
  item n _ _ _ := checkNode_present n
  eachTag name xs := by
    change (Items.each (.ofTag name)).parts xs = (Items.each (Node.ofTag name).present).parts xs
    rw [Node.present_ofTag]

/-- The input of a whole schema is present, so a list there may be a type as well. -/
theorem check_present (p : Policy) (schema : Node) (input : Json) :
    check p schema.present input = check p schema input := by
  unfold check extend
  rw [Node.extend_present]
  cases schema.extend p input Path.root with
  | error i => rfl
  | ok extended => exact checkNode_present extended

theorem check_longForm (p : Policy) (schema : Node) (input : Json) :
    check p schema.longForm.present input = check p schema input :=
  (check_present p schema.longForm input).trans
    ((Revision.lengthen_unnoticed p).check_eq (fun _ => rfl) Node.settled_ofTag schema input)

/-- Schemas that are respelled, any number of times and at any depth, come to the
same result on every input and under every catalog, the reports included. -/
theorem spellings_are_interchangeable (matcher? : String → Option (String → Bool)) (c : Catalog)
    (schema schema' input : Json)
    (h : Relation.ReflTransGen (Respelling .present) schema schema') :
    validateWith matcher? c (Node.ofJson schema) input =
      validateWith matcher? c (Node.ofJson schema') input := by
  have hlong : (Node.ofJson schema).longForm.present = (Node.ofJson schema').longForm.present := by
    induction h with
    | refl => rfl
    | tail _ hstep ih => exact ih.trans hstep.alike
  rw [validateWith_eq, validateWith_eq, ← check_longForm, hlong, check_longForm]

/-- An object with a property `k`, a list `xs` of two items, and a block that can
add a property `n`; the nodes of these are left open. -/
def schemaAround (k first second n : Json) : Json :=
  .object [
    ("type", .string "object"),
    ("properties", .object [("k", k),
      ("xs", .object [("type", .string "array"), ("items", .array [first, second])])]),
    ("if", .object [("value", .string "k"),
      ("conditions", .object [("operator", .string "="), ("value", .string "a"),
        ("elseIf", .object [("operator", .string "typeof"), ("value", .string "string"),
          ("addProperties", .object [("n", n)])])])])]

/-- Each kind of replacement, one of them in a node that is yet to be added. -/
theorem schemaAround_reports :
    let letters : Json := .array [.string "a", .string "b"]
    let one : Json := .array [.number (.integer 1)]
    let short := schemaAround (.object [("enum", letters)]) (.string "integer") one (.string "null")
    let long := schemaAround (.object [("type", letters)]) (.object [("type", .string "integer")])
      (.object [("type", one)]) (.object [("type", .string "null")])
    let input : Json := .object [("k", .string "b"), ("n", .bool true),
      ("xs", .array [.number (.integer 7), .number (.integer 1)])]
    Relation.ReflTransGen (Respelling .present) short long ∧
    validateWith (fun _ => none) .builtin (Node.ofJson short) input =
      validateWith (fun _ => none) .builtin (Node.ofJson long) input ∧
    ∃ r, validateWith (fun _ => none) .builtin (Node.ofJson long) input = .error r ∧
      r.path = [.key "n"] := by
  intro letters one short long input
  have hletters (first second n : Json) : Respelling .present
      (schemaAround (.object [("enum", letters)]) first second n)
      (schemaAround (.object [("type", letters)]) first second n) := by
    apply Respelling.member [_] _ rfl
    apply Respelling.member [] _ rfl
    apply Respelling.enum (by decide) rfl rfl rfl
    intro key hkey
    simp only [List.mem_cons, List.not_mem_nil, or_false, not_or] at hkey
    simp [Table.get?_cons, Ne.symm hkey.1, Ne.symm hkey.2]
  have hfirst (k second n : Json) : Respelling .present
      (schemaAround k (.string "integer") second n)
      (schemaAround k (.object [("type", .string "integer")]) second n) := by
    apply Respelling.member [_] _ rfl
    apply Respelling.member [_] _ rfl
    apply Respelling.member [_] _ rfl
    apply Respelling.item [] _ rfl
    exact .tag (by decide) (by decide)
  have hsecond (k first n : Json) : Respelling .present (schemaAround k first one n)
      (schemaAround k first (.object [("type", one)]) n) := by
    apply Respelling.member [_] _ rfl
    apply Respelling.member [_] _ rfl
    apply Respelling.member [_] _ rfl
    apply Respelling.item [_] _ rfl
    exact .list _
  have hadded (k first second : Json) : Respelling .present
      (schemaAround k first second (.string "null"))
      (schemaAround k first second (.object [("type", .string "null")])) := by
    apply Respelling.member [_, _] _ rfl
    apply Respelling.member [_] _ rfl
    apply Respelling.member [_, _] _ rfl
    apply Respelling.member [_, _] _ rfl
    apply Respelling.member [] _ rfl
    exact .tag (by decide) (by decide)
  have hsteps : Relation.ReflTransGen (Respelling .present) short long :=
    .head (hletters _ _ _) (.head (hfirst _ _ _) (.head (hsecond _ _ _) (.single (hadded _ _ _))))
  have hcheck : check (Catalog.builtin.policy fun _ => none) (Node.ofJson long) input =
      .error (dataIssue .typeof [.key "n"] {} [("type", "null")]) := by
    cbv
  exact ⟨hsteps, spellings_are_interchangeable (fun _ => none) .builtin short long input hsteps,
    _, validateWith_eq_error_iff.mpr ⟨_, hcheck, rfl⟩, rfl⟩

end Conform
