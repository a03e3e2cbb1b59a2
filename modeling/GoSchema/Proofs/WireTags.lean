import GoSchema.Proofs.EncoderReading
import GoSchema.Proofs.HelperSources
import GoSchema.Proofs.Lookup
import GoSchema.Proofs.Rendering

/-!
# Wire tags

A wire value carries a tag, and code that reads wire values compares it with the tag that it expects. The
encoder of a type makes the value: directly for base types and containers, and otherwise through a method, which
for a typedef goes on with the layer below. What the decoders expect is worked out from the schema instead, by
going down to the type below all layers at once.

Both sides are read off the generated code. The functions that make values have a table of their own (`makers`), and
so have the names of the tags in the wire package (`tagNames`); neither is the one that the generator writes with.

* `tagBetween?` reads the tag that a text names, and `comparedTags` lists the tags with which the conditions of some
  code compare.
* `Env.Expects` says what is read wherever values of a type are taken in: in the branch of a record's decoder, in the
  adapters of the containers that hold such values, and in the readers of these containers. Each place compares with
  one tag and no other.
* `Program.Reads` reads the tag off an encoder, through the layers of typedefs.

Both agree, through any number of layers (`Program.wire_tags_agree`). That the wire package itself puts a tag on a
value as its table says is taken from there, and what a decoder does with a value of the right tag is not looked at.
-/

namespace GoSchema

open Go

/-! ### Tags in code -/

/-- The tags by their names in the wire package. -/
def tagNames : List (String × WireTag) :=
  [("TBool", .bool), ("TI8", .i8), ("TI16", .i16), ("TI32", .i32), ("TI64", .i64), ("TDouble", .double),
   ("TBinary", .binary), ("TStruct", .struct), ("TMap", .map), ("TSet", .set), ("TList", .list)]

/-- Reads the tag that a text names, between what stands before it and after it. The wire package has the alias
`wire`. -/
def tagBetween? (wire before after text : String) : Option WireTag :=
  (tagNames.find? fun t => text = before ++ (wire ++ "." ++ t.1) ++ after).map Prod.snd

/-- The tags with which the conditions of some code compare what stands in `comparison`, in their order. -/
def comparedTags (wire comparison : String) (code : Code) : List WireTag :=
  code.filterMap fun l => tagBetween? wire ("if " ++ comparison) " \x7b" l.text

section
variable {wire before after comparison text : String} {a b code body : Code}

theorem tagBetween?_constant (wire before after : String) (tag : WireTag) :
    tagBetween? wire before after (before ++ (wire ++ "." ++ tag.constant) ++ after) = some tag := by
  have hname (name : String) :
      before ++ (wire ++ "." ++ tag.constant) ++ after = before ++ (wire ++ "." ++ name) ++ after ↔
        tag.constant = name := by
    simp [← String.toList_inj]
  simp only [tagBetween?, hname]
  cases tag <;> rfl

theorem tagBetween?_eq_none (h : ∀ name, text ≠ before ++ (wire ++ "." ++ name) ++ after) :
    tagBetween? wire before after text = none := by
  have hnone : (tagNames.find? fun t => text = before ++ (wire ++ "." ++ t.1) ++ after) = none :=
    List.find?_eq_none.mpr fun t _ heq => h t.1 (of_decide_eq_true heq)
  rw [tagBetween?, hnone]
  rfl

theorem tagBetween?_of_not_isPrefix (h : ¬ before.toList <+: text.toList) :
    tagBetween? wire before after text = none := by
  refine tagBetween?_eq_none fun name heq => h ?_
  rw [heq, String.append_assoc, String.toList_append]
  exact List.prefix_append _ _

theorem tagBetween?_of_getLast? (h : text.toList.getLast? ≠ some '\x7b') :
    tagBetween? wire before " \x7b" text = none := by
  refine tagBetween?_eq_none fun name heq => h ?_
  rw [heq, String.toList_append, List.getLast?_append]
  rfl

@[simp] theorem comparedTags_append :
    comparedTags wire comparison (a ++ b) = comparedTags wire comparison a ++ comparedTags wire comparison b :=
  List.filterMap_append

@[simp] theorem comparedTags_indent :
    comparedTags wire comparison (indent code) = comparedTags wire comparison code := by
  simp [comparedTags, indent, List.filterMap_map]

theorem comparedTags_eq_nil
    (h : ∀ text, HasLine code text → tagBetween? wire ("if " ++ comparison) " \x7b" text = none) :
    comparedTags wire comparison code = [] :=
  List.filterMap_eq_nil_iff.mpr fun l hl => h l.text ⟨l, hl, rfl⟩

/-- A condition compares with its tag, and nothing is compared in the body. -/
theorem comparedTags_ifThen (tag : WireTag) (hbody : comparedTags wire comparison body = []) :
    comparedTags wire comparison (ifThen (comparison ++ (wire ++ "." ++ tag.constant)) body) = [tag] := by
  have hopen : tagBetween? wire ("if " ++ comparison) " \x7b"
      ("if " ++ (comparison ++ (wire ++ "." ++ tag.constant)) ++ " \x7b") = some tag := by
    have hread := tagBetween?_constant wire ("if " ++ comparison) " \x7b" tag
    simpa only [String.append_assoc] using hread
  have hclose : tagBetween? wire ("if " ++ comparison) " \x7b" "\x7d" = none :=
    tagBetween?_of_getLast? (by decide)
  simp only [ifThen, block, comparedTags_append, comparedTags_indent, hbody]
  simp [comparedTags, line, hopen, hclose]

/-- The opening and the end of a function compare nothing. -/
theorem comparedTags_func (signature : String) :
    comparedTags wire comparison (func signature body) = comparedTags wire comparison body := by
  have hopen : comparedTags wire comparison (line ("func " ++ signature ++ " \x7b")) = [] :=
    comparedTags_eq_nil fun text htext => tagBetween?_of_not_isPrefix (by simp_all)
  have hend : comparedTags wire comparison (line "\x7d" ++ line "") = [] := by
    refine comparedTags_eq_nil fun text htext => tagBetween?_of_not_isPrefix ?_
    simp only [hasLine_append, hasLine_line] at htext
    rcases htext with rfl | rfl <;> simp
  rw [func, block, List.append_assoc, comparedTags_append, comparedTags_append, comparedTags_indent, hopen]
  exact (congrArg (comparedTags wire comparison body ++ ·) hend).trans (List.append_nil _)

end

/-! ### Tags that decoders expect -/

/-- The containers whose elements, keys or values are of a type, with the role of the helper that adapts the
container, the method that tells the tag of these, and the name under which the reader has the container. -/
inductive HoldsIn (ty : Ty) : Role → Ty → String → String → Prop
  | list : HoldsIn ty .valueList (.list ty) "ValueType" "l"
  | set (annotations : Annotations) : HoldsIn ty .valueList (.set ty annotations) "ValueType" "s"
  | key (value : Ty) : HoldsIn ty .mapItemList (.map ty value) "KeyType" "m"
  | value (key : Ty) : HoldsIn ty .mapItemList (.map key ty) "ValueType" "m"

/-- How the decoder of a record compares the tag of a field. -/
def fieldComparison : String := "field.Value.Type() == "

/-- How the reader of a container compares the tag of what it holds; an empty container is not compared. -/
def heldComparison (source accessor : String) : String := s!"{source}.Size() > 0 && {source}.{accessor}() != "

/-- The branch of a record's decoder takes up a field with this tag and with no other. -/
def TakesUp (wire : String) (tag : WireTag) (branch : Code) : Prop :=
  (∃ label condition body, branch = caseOf label (ifThen condition body) ∧
    tagBetween? wire fieldComparison "" condition = some tag) ∧
  comparedTags wire fieldComparison branch = [tag]

/-- The reader of a container gives an error unless what the container holds has this tag, and knows no other. -/
def Insists (wire source accessor : String) (tag : WireTag) (reader : Code) : Prop :=
  (∃ condition error, indent (ifThen condition (line ("return nil, " ++ error))) <:+: reader ∧
    tagBetween? wire (heldComparison source accessor) "" condition = some tag) ∧
  comparedTags wire (heldComparison source accessor) reader = [tag]

/-- The signature of the method that tells a tag. -/
def tagSignature (name accessor wire : String) : String := s!"({name}) {accessor}() {wire}.Type"

/-- The method of an adapter tells this tag. -/
def Tells (wire name accessor : String) (tag : WireTag) (adapter : Code) : Prop :=
  ∃ text, funcBody? (tagSignature name accessor wire) adapter = some [⟨1, text⟩] ∧
    tagBetween? wire "return " "" text = some tag

namespace Env

/-- Wherever code reads values of the type, it expects this tag and no other. -/
structure Expects (env : Env) (ty : Ty) (tag : WireTag) : Prop where
  /-- The decoder of a record takes up a field only with the tag. -/
  field : ∀ m : Member, m.type = ty → Gives (env.decodeMember m) (TakesUp env.wireName tag)
  /-- The adapter of a container tells the tag of what it holds. -/
  adapter : ∀ role container accessor source name, HoldsIn ty role container accessor source →
    Gives (env.helperSource role container name) (Tells env.wireName name accessor tag)
  /-- The reader of a container refuses one that holds something with another tag. -/
  reader : ∀ role container accessor source name, HoldsIn ty role container accessor source →
    Gives (env.helperSource .read container name) (Insists env.wireName source accessor tag)

variable {env : Env} {ty : Ty} {tag : WireTag}

/-- The expression for a tag. -/
def tagText (env : Env) (tag : WireTag) : String := env.wireName ++ "." ++ tag.constant

theorem wireTag_gives (h : env.program.wireTag? ty = some tag) :
    Gives (env.wireTag ty) fun text => text = env.tagText tag := by
  refine .bind fun wire hwire => .bind fun tag' htag => .pure ?_
  obtain rfl := wire_gives wire hwire
  have htag' := present_eq_ok.mp htag.of_lift
  rw [h] at htag'
  cases htag'
  rfl

theorem tagBetween?_tagText (before : String) :
    tagBetween? env.wireName before "" (before ++ env.tagText tag) = some tag := by
  simpa [tagText] using tagBetween?_constant env.wireName before "" tag

/-- A branch takes up the field, when the rest of its body compares nothing. -/
theorem takesUp_branch (id : Int) {body : Code} (hbody : comparedTags env.wireName fieldComparison body = []) :
    TakesUp env.wireName tag
      (caseOf ("case " ++ toString id) (ifThen s!"field.Value.Type() == {env.tagText tag}" body)) := by
  have hcondition : s!"field.Value.Type() == {env.tagText tag}" = fieldComparison ++ env.tagText tag := by
    simp [fieldComparison, toString]
  have hlabel : comparedTags env.wireName fieldComparison (line ("case " ++ toString id ++ ":")) = [] :=
    comparedTags_eq_nil fun text htext => tagBetween?_of_not_isPrefix (by simp_all [fieldComparison])
  rw [hcondition]
  refine ⟨⟨_, _, _, rfl, tagBetween?_tagText _⟩, ?_⟩
  rw [caseOf, comparedTags_append, comparedTags_indent, hlabel]
  exact comparedTags_ifThen tag hbody

theorem comparedTags_returnError : comparedTags env.wireName fieldComparison (returnError "err") = [] := by
  refine comparedTags_eq_nil fun text htext => tagBetween?_of_not_isPrefix ?_
  simp only [returnError, hasLine_ifThen, hasLine_block, hasLine_line] at htext
  rcases htext with rfl | rfl | rfl <;> simp [fieldComparison]

/-- The statement that marks a field as seen may begin with any name, but its end tells it from a condition. -/
theorem comparedTags_mark (flag : String) :
    comparedTags env.wireName fieldComparison (line s!"{flag} = true") = [] :=
  comparedTags_eq_nil fun text htext => tagBetween?_of_getLast? (by simp_all [toString, List.getLast?_cons])

theorem decodeMember_takesUp (m : Member) (h : env.program.wireTag? m.type = some tag) :
    Gives (env.decodeMember m) (TakesUp env.wireName tag) := by
  refine .bind fun text htext => .bind fun decoded _ => ?_
  obtain rfl := wireTag_gives h text htext
  have hbody {read mark : Code} (hread : comparedTags env.wireName fieldComparison read = [])
      (hmark : comparedTags env.wireName fieldComparison mark = []) :
      comparedTags env.wireName fieldComparison (read ++ returnError "err" ++ mark) = [] := by
    rw [comparedTags_append, comparedTags_append, hread, comparedTags_returnError, hmark]
    rfl
  dsimp only
  cases m.holding with
  | pointer =>
    refine .bind fun type _ => .bind fun read hread => .pure (takesUp_branch _ (hbody ?_ ?_))
    · obtain rfl := hread.of_pure
      refine comparedTags_eq_nil fun text htext => tagBetween?_of_not_isPrefix ?_
      simp only [hasLine_append, hasLine_line] at htext
      rcases htext with (rfl | rfl) | rfl <;> simp [fieldComparison, toString]
    · cases m.flag with
      | none => rfl
      | some flag => exact comparedTags_mark flag
  | value | nilable =>
    refine .bind fun read hread => .pure (takesUp_branch _ (hbody ?_ ?_))
    · obtain rfl := hread.of_pure
      exact comparedTags_eq_nil fun text htext => tagBetween?_of_not_isPrefix (by simp_all [fieldComparison, toString])
    · cases m.flag with
      | none => rfl
      | some flag => exact comparedTags_mark flag

/-! #### Readers -/

/-- The statement that refuses what does not have the tag. -/
def refusal (env : Env) (source accessor : String) (tag : WireTag) (error : String) : Code :=
  ifThen (heldComparison source accessor ++ env.tagText tag) (line ("return nil, " ++ error))

theorem tagCheck_gives (h : env.program.wireTag? ty = some tag) (source accessor what : String) :
    Gives (env.tagCheck source accessor ty what) fun code => ∃ error, code = env.refusal source accessor tag error := by
  refine .bind fun fmt _ => .bind fun text htext => .pure ?_
  obtain rfl := wireTag_gives h text htext
  let message := s!"unexpected wire type %v for {what} element, expected %v"
  refine ⟨s!"{fmt}.Errorf(\"{message}\", {source}.{accessor}(), {env.tagText tag})", ?_⟩
  simp [message, refusal, heldComparison, toString, String.append_assoc]

theorem comparedTags_refusal (source accessor error : String) :
    comparedTags env.wireName (heldComparison source accessor) (env.refusal source accessor tag error) = [tag] := by
  refine comparedTags_ifThen tag (comparedTags_eq_nil fun text htext => tagBetween?_of_not_isPrefix ?_)
  simp_all

/-- A reader insists on the tag, when it has the refusal and compares nothing else in this way. -/
theorem insists_func {source accessor error signature : String} (before : Code) {after : Code}
    (hbefore : comparedTags env.wireName (heldComparison source accessor) before = [])
    (hafter : comparedTags env.wireName (heldComparison source accessor) after = []) :
    Insists env.wireName source accessor tag
      (func signature (before ++ (env.refusal source accessor tag error ++ after))) := by
  refine ⟨⟨_, error, indent_infix_func (List.infix_append' before _ after) _, tagBetween?_tagText _⟩, ?_⟩
  rw [comparedTags_func, comparedTags_append, comparedTags_append, hbefore, hafter, comparedTags_refusal]
  rfl

theorem sequenceReader_insists (h : env.program.wireTag? ty = some tag) (container : Ty) (keyed : Bool)
    (what : String) {source : String} (hsource : source = "l" ∨ source = "s") (decodeElement : Emit String)
    (name : String) :
    Gives (env.sequenceReader container ty keyed what source decodeElement name)
      (Insists env.wireName source "ValueType" tag) := by
  refine .bind fun type _ => .bind fun wire _ => .bind fun check hcheck => .bind fun decoded _ => .pure ?_
  obtain ⟨error, rfl⟩ := tagCheck_gives h source "ValueType" what check hcheck
  simp only [List.append_assoc]
  refine insists_func [] rfl (comparedTags_eq_nil fun text htext => tagBetween?_of_not_isPrefix ?_)
  simp only [returnError, hasLine_append, hasLine_line, hasLine_indent, hasLine_ifThen, hasLine_block] at htext
  rcases hsource with rfl | rfl
  all_goals
    rcases htext with rfl | rfl | (rfl | (rfl | rfl | rfl) | rfl | rfl) | rfl | rfl | rfl
    all_goals cases keyed <;> simp [heldComparison, toString]

/-- The check of keys compares nothing in the way of the check of values, and the other way round. -/
theorem tagCheck_apart {accessor other : String}
    (h : accessor = "KeyType" ∧ other = "ValueType" ∨ accessor = "ValueType" ∧ other = "KeyType") (what : String) :
    Gives (env.tagCheck "m" accessor ty what) fun code =>
      comparedTags env.wireName (heldComparison "m" other) code = [] := by
  refine .bind fun fmt _ => .bind fun tag _ => .pure ?_
  refine comparedTags_eq_nil fun text htext => tagBetween?_of_not_isPrefix ?_
  simp only [hasLine_ifThen, hasLine_block, hasLine_line] at htext
  obtain ⟨rfl, rfl⟩ | ⟨rfl, rfl⟩ := h
  all_goals rcases htext with rfl | rfl | rfl <;> simp [heldComparison, toString]

/-- A reader of maps with both checks insists on both tags. -/
theorem insists_map {key value : Ty} {keyWhat valueWhat signature : String} {keyCheck valueCheck rest : Code}
    (hkey : Answers (env.tagCheck "m" "KeyType" key keyWhat) keyCheck)
    (hvalue : Answers (env.tagCheck "m" "ValueType" value valueWhat) valueCheck)
    (hrest : ∀ accessor, comparedTags env.wireName (heldComparison "m" accessor) rest = []) :
    (∀ tag, env.program.wireTag? key = some tag →
      Insists env.wireName "m" "KeyType" tag (func signature (keyCheck ++ (valueCheck ++ rest)))) ∧
    ∀ tag, env.program.wireTag? value = some tag →
      Insists env.wireName "m" "ValueType" tag (func signature (keyCheck ++ (valueCheck ++ rest))) := by
  have hkeyApart := tagCheck_apart (.inl ⟨rfl, rfl⟩) _ keyCheck hkey
  have hvalueApart := tagCheck_apart (.inr ⟨rfl, rfl⟩) _ valueCheck hvalue
  refine ⟨fun tag htag => ?_, fun tag htag => ?_⟩
  · obtain ⟨error, rfl⟩ := tagCheck_gives htag _ _ _ keyCheck hkey
    refine insists_func [] rfl ?_
    rw [comparedTags_append, hvalueApart, hrest]
    rfl
  · obtain ⟨error, rfl⟩ := tagCheck_gives htag _ _ _ valueCheck hvalue
    exact insists_func keyCheck hkeyApart (hrest _)

theorem mapReader_insists (key value : Ty) (decodeKey decodeEntry : Emit String) (name : String) :
    Gives (env.mapReader key value decodeKey decodeEntry name) fun code =>
      (∀ tag, env.program.wireTag? key = some tag → Insists env.wireName "m" "KeyType" tag code) ∧
      ∀ tag, env.program.wireTag? value = some tag → Insists env.wireName "m" "ValueType" tag code := by
  refine .bind fun type _ => .bind fun wire _ => .bind fun keyCheck hkey => .bind fun valueCheck hvalue => ?_
  refine .bind fun decodedKey _ => .bind fun decodedValue _ => .pure ?_
  simp only [List.append_assoc]
  refine insists_map hkey hvalue fun accessor =>
    comparedTags_eq_nil fun text htext => tagBetween?_of_not_isPrefix ?_
  simp only [returnError, hasLine_append, hasLine_line, hasLine_indent, hasLine_ifThen, hasLine_block] at htext
  rcases htext with rfl | rfl |
    (rfl | (rfl | rfl | rfl) | rfl | (rfl | rfl | rfl) | rfl | rfl) | rfl | rfl | rfl
  all_goals cases type <;> simp [heldComparison, toString]

/-! #### Adapters -/

theorem tagSignature_ne {name accessor wire signature : String} (h : signature.toList.getLast? ≠ some 'e') :
    tagSignature name accessor wire ≠ signature := by
  rintro rfl
  simp [tagSignature, toString, List.getLast?_cons] at h

theorem tagSignature_key_ne_value {name wire : String} :
    tagSignature name "ValueType" wire ≠ tagSignature name "KeyType" wire := by
  simp [tagSignature, toString, ← String.toList_inj]

theorem tells_func (name accessor : String) (after : Code) :
    Tells env.wireName name accessor tag
      (func (tagSignature name accessor env.wireName) (line s!"return {env.tagText tag}") ++ after) := by
  refine ⟨"return " ++ env.tagText tag, ?_, tagBetween?_tagText _⟩
  rw [funcBody?_func]
  simp [indent, line, toString]

/-- Code that does not open a method of the signature may stand before it. -/
theorem tells_append {wire name accessor : String} {before code : Code}
    (hbefore : header (tagSignature name accessor wire) ∉ before) (h : Tells wire name accessor tag code) :
    Tells wire name accessor tag (before ++ code) := by
  obtain ⟨text, hbody, htag⟩ := h
  exact ⟨text, (funcBody?_append hbefore code).trans hbody, htag⟩

/-- An adapter begins with its type and the methods that go through the container and give its size. -/
theorem tells_adapter {name accessor type forEach size : String} {loop length code : Code}
    (hforEach : forEach.toList.getLast? ≠ some 'e') (hsize : size.toList.getLast? ≠ some 'e')
    (h : Tells env.wireName name accessor tag code) :
    Tells env.wireName name accessor tag
      (line s!"type {name} {type}" ++ (blank ++ (func forEach loop ++ (func size length ++ code)))) := by
  refine tells_append (header_notMem_line (by simp [toString])) (tells_append (header_notMem_line (by simp)) ?_)
  refine tells_append (header_notMem_func (tagSignature_ne hforEach) _) ?_
  exact tells_append (header_notMem_func (tagSignature_ne hsize) _) h

theorem sequenceAdapter_tells (h : env.program.wireTag? ty = some tag) (container : Ty) (keyed : Bool)
    (what : String) (encodeElement : Emit String) (name : String) :
    Gives (env.sequenceAdapter container ty keyed what encodeElement name)
      (Tells env.wireName name "ValueType" tag) := by
  refine .bind fun type _ => .bind fun wire hwire => .bind fun guard _ => .bind fun encoded _ => ?_
  refine .bind fun text htext => .pure ?_
  obtain rfl := wire_gives wire hwire
  obtain rfl := wireTag_gives h text htext
  have hsignature : s!"({name}) ValueType() {env.wireName}.Type" = tagSignature name "ValueType" env.wireName := by
    simp [tagSignature, toString, ← String.toList_inj]
  rw [hsignature]
  simp only [List.append_assoc]
  refine tells_adapter ?_ ?_ (tells_func name "ValueType" _)
  all_goals simp [toString, List.getLast?_cons]

theorem mapAdapter_tells (key value : Ty) (encodeKey encodeEntry : Emit String) (name : String) :
    Gives (env.mapAdapter key value encodeKey encodeEntry name) fun code =>
      (∀ tag, env.program.wireTag? key = some tag → Tells env.wireName name "KeyType" tag code) ∧
      ∀ tag, env.program.wireTag? value = some tag → Tells env.wireName name "ValueType" tag code := by
  refine .bind fun type _ => .bind fun wire hwire => .bind fun _ _ => .bind fun _ _ => ?_
  refine .bind fun _ _ => .bind fun _ _ => .bind fun keyText hkey => .bind fun valueText hvalue => ?_
  refine .bind fun keyed _ => .pure ?_
  obtain rfl := wire_gives wire hwire
  have hkeySignature : s!"({name}) KeyType() {env.wireName}.Type" = tagSignature name "KeyType" env.wireName := by
    simp [tagSignature, toString, ← String.toList_inj]
  have hvalueSignature : s!"({name}) ValueType() {env.wireName}.Type" =
      tagSignature name "ValueType" env.wireName := by
    simp [tagSignature, toString, ← String.toList_inj]
  rw [hkeySignature, hvalueSignature]
  simp only [List.append_assoc]
  refine ⟨fun tag htag => tells_adapter ?_ ?_ ?key, fun tag htag => tells_adapter ?_ ?_ ?value⟩
  case key =>
    obtain rfl := wireTag_gives htag keyText hkey
    exact tells_func name "KeyType" _
  case value =>
    obtain rfl := wireTag_gives htag valueText hvalue
    exact tells_append (header_notMem_func tagSignature_key_ne_value _) (tells_func name "ValueType" _)
  all_goals simp [toString, List.getLast?_cons]

/-- All places have the tag that the schema gives for the type. -/
theorem expects_of_wireTag (h : env.program.wireTag? ty = some tag) : env.Expects ty tag where
  field m hm := decodeMember_takesUp m (hm ▸ h)
  adapter role container accessor source name hholds := by
    cases hholds with
    | list => exact sequenceAdapter_tells h _ _ _ _ name
    | set annotations => exact .bind fun keyed _ => sequenceAdapter_tells h _ _ _ _ name
    | key value => exact fun code hcode => (mapAdapter_tells _ _ _ _ name code hcode).1 tag h
    | value key => exact fun code hcode => (mapAdapter_tells _ _ _ _ name code hcode).2 tag h
  reader role container accessor source name hholds := by
    cases hholds with
    | list => exact sequenceReader_insists h _ _ _ (.inl rfl) _ name
    | set annotations => exact .bind fun keyed _ => sequenceReader_insists h _ _ _ (.inr rfl) _ name
    | key value => exact fun code hcode => (mapReader_insists _ _ _ _ name code hcode).1 tag h
    | value key => exact fun code hcode => (mapReader_insists _ _ _ _ name code hcode).2 tag h

end Env

/-! ### Tags that encoders put on values -/

namespace Program

/-- In a draft for the file that declares the type, the encoder of the type has this body. -/
def HasEncoder (p : Program) (ty : Ty) (d : Draft) (body : Code) : Prop :=
  ∃ e ident file root o part, ty.entity? = some e ∧ p.identOf? e = some ident ∧ p.owner? e = some file ∧
    p.rootType? ty = some root ∧ p.draft file o = .ok d ∧ d.env.Declares ident part e ∧ part <:+: d.code ∧
    funcBody? (encoderSignature (root.receiver ident) d.env.wireName) part = some body

/-- The tag that is read off an expression for values of the type, in the surroundings `env`. An expression that
calls an encoder is read through the code that declares the type; the encoder of a typedef goes on with an
expression for the value of the layer below. -/
inductive Reads (p : Program) : Env → Ty → String → WireTag → Prop
  /-- The expression itself makes the value. -/
  | makes {env : Env} {ty : Ty} {expr : String} {tag : WireTag}
      (read : encodingOf? env.wireName expr = some (.makes tag)) : Reads p env ty expr tag
  /-- The expression calls the encoder of the type, which makes the value. -/
  | calls {env : Env} {ty : Ty} {expr returned : String} {tag : WireTag} {d : Draft} {body : Code}
      (read : encodingOf? env.wireName expr = some .calls) (encoder : p.HasEncoder ty d body)
      (ends : body.getLast? = some ⟨1, "return " ++ returned⟩)
      (made : encodingOf? d.env.wireName returned = some (.makes tag)) : Reads p env ty expr tag
  /-- The expression calls the encoder of a typedef, which encodes the value of the layer below. -/
  | layer {env : Env} {r : Ref .typedef} {t : Typedef} {expr target returned : String} {tag : WireTag} {d : Draft}
      (read : encodingOf? env.wireName expr = some .calls) (typedef : p.typedef? r = some t)
      (type : Answers (d.env.typeText t.target) target)
      (encoder : p.HasEncoder (.typedef r) d [⟨1, s!"x := ({target})(v)"⟩, ⟨1, "return " ++ returned⟩])
      (below : Reads p d.env t.target returned tag) : Reads p env (.typedef r) expr tag

/-- On the way down from a type through its layers, the other is met. -/
inductive Meets (p : Program) : Ty → Ty → Prop
  | here (ty : Ty) : Meets p ty ty
  | layer {r : Ref .typedef} {t : Typedef} {ty : Ty} (typedef : p.typedef? r = some t) (h : Meets p t.target ty) :
      Meets p (.typedef r) ty

/-- The files that declare the type and the layers below it are generated. -/
def Generated (p : Program) (ty : Ty) : Prop :=
  ∀ ty' e file, p.Meets ty ty' → ty'.entity? = some e → p.owner? e = some file → ∃ o d, p.draft file o = .ok d

variable {p : Program}

theorem rootType?_of_not_typedef {ty : Ty} (h : ty.isTypedef = false) : p.rootType? ty = some ty :=
  descend_of_not_typedef h _

/-- The encoders of enums and structs make values with the tag of the type. -/
theorem HasEncoder.makes {ty : Ty} {d : Draft} {body : Code} (h : p.HasEncoder ty d body)
    (hnot : ty.isTypedef = false) :
    ∃ returned, body.getLast? = some ⟨1, "return " ++ returned⟩ ∧
      encodingOf? d.env.wireName returned = some (.makes ty.wireTag) := by
  obtain ⟨e, ident, file, root, o, part, hnamed, hident, -, hroot, hd, hdeclares, -, hbody⟩ := h
  obtain ⟨hprogram, -⟩ := draft_covers hd
  obtain rfl : ty = root := Option.some.inj ((rootType?_of_not_typedef hnot).symm.trans hroot)
  obtain ⟨body', returned, hbody', hends, hmakes⟩ := hdeclares.encoder hnamed hnot (hprogram ▸ hident)
  obtain rfl : body = body' := Option.some.inj (hbody.symm.trans hbody')
  exact ⟨returned, hends, hmakes⟩

/-- The encoder of a typedef goes on with an expression that encodes the value of the layer below. -/
theorem HasEncoder.layer {r : Ref .typedef} {t : Typedef} {layers : List (Ref .typedef)} {root : Ty} {d : Draft}
    {body : Code} (h : p.HasEncoder (.typedef r) d body) (ht : p.typedef? r = some t)
    (hunfolds : p.Unfolds t.target layers root) :
    ∃ target returned, Answers (d.env.typeText t.target) target ∧ Answers (d.env.encode t.target "x") returned ∧
      body = [⟨1, s!"x := ({target})(v)"⟩, ⟨1, "return " ++ returned⟩] := by
  obtain ⟨e, ident, file, root', o, part, hnamed, hident, -, hroot, hd, hdeclares, -, hbody⟩ := h
  cases hnamed
  obtain ⟨hprogram, -⟩ := draft_covers hd
  obtain rfl : root = root' := Option.some.inj ((hunfolds.layer ht).rootType?_eq.symm.trans hroot)
  obtain ⟨target, returned, htarget, hreturned, hbody'⟩ :=
    hdeclares.layer (hprogram ▸ ht) (hprogram ▸ hunfolds.rootType?_eq) (hprogram ▸ hident)
  exact ⟨target, returned, htarget, hreturned, Option.some.inj (hbody.symm.trans hbody')⟩

/-- A type with a name has its encoder in the code, once its file is generated. -/
theorem exists_encoder {ty root : Ty} {layers : List (Ref .typedef)} (hunfolds : p.Unfolds ty layers root)
    (hty : p.TypeInRange ty) {e : Entity} (hnamed : ty.entity? = some e) (hgenerated : p.Generated ty) :
    ∃ d body, p.HasEncoder ty d body := by
  obtain ⟨ident, file, hident, howner⟩ := declared_of_inRange hty hnamed
  obtain ⟨o, d, hd⟩ := hgenerated ty e file (.here ty) hnamed howner
  obtain ⟨hprogram, hfile, hcovers⟩ := draft_covers hd
  obtain ⟨part, hdeclares, hinside⟩ := hcovers.declares (hprogram ▸ hfile ▸ howner) (hprogram ▸ hident)
  cases hunfolds with
  | stop hnot =>
    obtain ⟨body, _, hbody, -⟩ := hdeclares.encoder hnamed hnot (hprogram ▸ hident)
    exact ⟨d, body, e, ident, file, ty, o, part, hnamed, hident, howner, rootType?_of_not_typedef hnot, hd, hdeclares,
      hinside, hbody⟩
  | layer ht hunfolds =>
    cases hnamed
    obtain ⟨_, _, -, -, hbody⟩ :=
      hdeclares.layer (hprogram ▸ ht) (hprogram ▸ hunfolds.rootType?_eq) (hprogram ▸ hident)
    exact ⟨d, _, _, ident, file, root, o, part, rfl, hident, howner, (hunfolds.layer ht).rootType?_eq, hd, hdeclares,
      hinside, hbody⟩

theorem returned_inj {body : Code} {a b : String} (ha : body.getLast? = some ⟨1, "return " ++ a⟩)
    (hb : body.getLast? = some ⟨1, "return " ++ b⟩) : a = b := by
  rw [ha] at hb
  simpa using hb

/-- Every reading of an expression that encodes values of a type finds the tag of the type below all layers. -/
theorem Reads.eq_wireTag {ty root : Ty} {layers : List (Ref .typedef)} (hunfolds : p.Unfolds ty layers root)
    {env : Env} {value expr : String} (hexpr : Answers (env.encode ty value) expr) {tag : WireTag}
    (h : p.Reads env ty expr tag) : tag = root.wireTag := by
  induction hunfolds generalizing env value expr with
  | @stop ty hnot =>
    cases hnamed : ty.entity? with
    | none =>
      have hmakes := Env.encode_makes hnamed value expr hexpr
      cases h with
      | makes read => simpa [read] using hmakes
      | calls read => simp [read] at hmakes
      | layer => cases hnot
    | some e =>
      have hcalls := Env.encode_calls hnamed value expr hexpr
      cases h with
      | makes read => simp [read] at hcalls
      | calls _ encoder ends made =>
        obtain ⟨returned, hends, hmakes⟩ := encoder.makes hnot
        obtain rfl := returned_inj ends hends
        simpa [made] using hmakes
      | layer => cases hnot
  | @layer r t layers root ht hunfolds ih =>
    have hnamed : (Ty.typedef r).entity? = some (.typedef r) := rfl
    have hcalls := Env.encode_calls hnamed value expr hexpr
    cases h with
    | makes read => simp [read] at hcalls
    | calls _ encoder ends made =>
      obtain ⟨target, returned, -, hreturned, rfl⟩ := encoder.layer ht hunfolds
      obtain rfl := returned_inj ends rfl
      exact ih hreturned (.makes made)
    | layer _ typedef _ encoder below =>
      obtain rfl := Option.some.inj (ht.symm.trans typedef)
      obtain ⟨target, returned, -, hreturned, hbody⟩ := encoder.layer ht hunfolds
      obtain rfl := returned_inj (congrArg List.getLast? hbody) rfl
      exact ih hreturned below

/-- The tag of the type below all layers is read, once the files that declare the layers are generated. -/
theorem reads_wireTag {ty root : Ty} {layers : List (Ref .typedef)} (hunfolds : p.Unfolds ty layers root)
    (hp : p.Sound) (hty : p.TypeInRange ty) (hgenerated : p.Generated ty) {env : Env} {value expr : String}
    (hexpr : Answers (env.encode ty value) expr) : p.Reads env ty expr root.wireTag := by
  induction hunfolds generalizing env value expr with
  | @stop ty hnot =>
    cases hnamed : ty.entity? with
    | none => exact .makes (Env.encode_makes hnamed value expr hexpr)
    | some e =>
      obtain ⟨d, body, hencoder⟩ := exists_encoder (.stop hnot) hty hnamed hgenerated
      obtain ⟨returned, hends, hmakes⟩ := hencoder.makes hnot
      exact .calls (Env.encode_calls hnamed value expr hexpr) hencoder hends hmakes
  | @layer r t layers root ht hunfolds ih =>
    have hnamed : (Ty.typedef r).entity? = some (.typedef r) := rfl
    obtain ⟨d, body, hencoder⟩ := exists_encoder (hunfolds.layer ht) hty hnamed hgenerated
    obtain ⟨target, returned, htarget, hreturned, rfl⟩ := hencoder.layer ht hunfolds
    have htargetTy : p.TypeInRange t.target := (hp.typedefs t (List.mem_of_getElem? ht)).2
    have hbelow : p.Generated t.target := fun ty' e file hmeets => hgenerated ty' e file (.layer ht hmeets)
    exact .layer (Env.encode_calls hnamed value expr hexpr) ht htarget hencoder (ih htargetTy hbelow hreturned)

/-- In a program that passes the check, every type has one tag on the wire. It is the only tag that can be read
off the encoders of the type, through any number of typedef layers, and it is read off them once the files that
declare the layers are generated. Whatever reads values of the type expects this tag and no other. -/
theorem wire_tags_agree (hp : p.check = .ok ()) {ty : Ty} (hty : p.TypeInRange ty) :
    ∃ tag, p.wireTag? ty = some tag ∧
      (∀ env : Env, env.program = p → ∀ value expr, Answers (env.encode ty value) expr →
        (∀ tag', p.Reads env ty expr tag' → tag' = tag) ∧ (p.Generated ty → p.Reads env ty expr tag)) ∧
      ∀ env : Env, env.program = p → env.Expects ty tag := by
  have hsound := sound_of_check hp
  obtain ⟨layers, root, hunfolds⟩ := hsound.unfolds hty
  have htag : p.wireTag? ty = some root.wireTag := by
    rw [wireTag?, hunfolds.rootType?_eq]
    rfl
  refine ⟨root.wireTag, htag, fun env _ value expr hexpr => ⟨fun tag' h => ?_, fun hgenerated => ?_⟩,
    fun env henv => ?_⟩
  · exact h.eq_wireTag hunfolds hexpr
  · exact reads_wireTag hunfolds hsound hty hgenerated hexpr
  · exact Env.expects_of_wireTag (henv ▸ htag)

/-- A colour that a typedef of another file renames, and a typedef of that one, which a list holds. -/
def swatches : Program :=
  { Program.empty with
    files := [⟨"a.thrift", "ex/a", "a"⟩, ⟨"b.thrift", "ex/b", "b"⟩]
    enums := [⟨"Color", ⟨0⟩, [⟨"red", 1, .empty⟩], .empty⟩]
    typedefs := [⟨"Shade", ⟨1⟩, .enum ⟨0⟩, .empty⟩, ⟨"Tint", ⟨0⟩, .typedef ⟨0⟩, .empty⟩]
    structs := [⟨"Card", ⟨0⟩, .struct, [⟨1, "tints", .list (.typedef ⟨1⟩), false, none, .empty⟩], false, .empty⟩] }

theorem wire_tags_agree_swatches :
    swatches.check = .ok () ∧ swatches.TypeInRange (.typedef ⟨1⟩) ∧
      ∃ d, swatches.draft ⟨0⟩ {} = .ok d ∧ swatches.Reads d.env (.typedef ⟨1⟩) "x.ToWire()" .i32 ∧
        (∀ tag, swatches.Reads d.env (.typedef ⟨1⟩) "x.ToWire()" tag → tag = .i32) ∧
        d.env.Expects (.typedef ⟨1⟩) .i32 ∧
        comparedTags "wire" fieldComparison d.code = [.list] ∧
        comparedTags "wire" (heldComparison "l" "ValueType") (d.run.helpers.flatMap Helper.code) = [.i32] := by
  have hcheck : swatches.check = .ok () := rfl
  have hty : swatches.TypeInRange (.typedef ⟨1⟩) := typeInRange_typedef.mpr (by decide)
  obtain ⟨d, hd, hcode⟩ : ∃ d, swatches.draft ⟨0⟩ {} = .ok d ∧ comparedTags "wire" fieldComparison d.code = [.list] ∧
      comparedTags "wire" (heldComparison "l" "ValueType") (d.run.helpers.flatMap Helper.code) = [.i32] :=
    exists_draft (by decide +kernel)
  obtain ⟨d', hd'⟩ : ∃ d, swatches.draft ⟨1⟩ {} = .ok d := exists_draft_of_isOk (by decide +kernel)
  obtain ⟨tag, htag, hreads, hexpects⟩ := wire_tags_agree hcheck hty
  obtain rfl : WireTag.i32 = tag := by
    have hroot : swatches.wireTag? (.typedef ⟨1⟩) = some .i32 := rfl
    exact Option.some.inj (hroot.symm.trans htag)
  obtain ⟨hprogram, -⟩ := draft_covers hd
  obtain ⟨honly, hread⟩ := hreads d.env hprogram "x" "x.ToWire()" ⟨d.run, d.run, rfl⟩
  have hgenerated : swatches.Generated (.typedef ⟨1⟩) := by
    -- The way down leads from the first file to the second and back to the first.
    intro ty e file hmeets hnamed howner
    cases hmeets with
    | here =>
      cases hnamed
      cases howner
      exact ⟨{}, d, hd⟩
    | layer ht hmeets =>
      cases ht
      cases hmeets with
      | here =>
        cases hnamed
        cases howner
        exact ⟨{}, d', hd'⟩
      | layer ht hmeets =>
        cases ht
        cases hmeets
        cases hnamed
        cases howner
        exact ⟨{}, d, hd⟩
  exact ⟨hcheck, hty, d, hd, hread hgenerated, honly, hexpects d.env hprogram, hcode⟩

end Program

end GoSchema
