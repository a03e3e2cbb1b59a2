import GoSchema.Proofs.Answers
import GoSchema.Proofs.PackageNames
import Mathlib.Data.List.Infix

/-!
# The lines that declare entities

Structs, enums, typedefs, constants and the items of enums are the entities that other files can refer to. The
run for the file that owns an entity writes code for it, in which one line declares it: the first line, or for
an item a line in the group of constants of its enum. The name in this line is the one that the schema gives
by hand, or else the spelling of the name in the schema (`Program.declares_of_draft`).

## What is proved

* `Env.Covers` and `Env.covers_of_declarationsCode`: each declaration of a file has its part in the code, and the
  part is what the emitter of the declaration answers.
* `Env.Covers.declares`: the part of an entity has the line that declares it, with its identifier, for all five
  kinds of entities. `Draft.Declares` says this of the code of a draft.

That the line is the only one with this name is not claimed here. The identifiers of a package are kept apart where
names are claimed, and the other lines of a part may well mention the name.
-/

namespace GoSchema

open Go

/-- What code can refer to across files. -/
inductive Entity where
  | struct (r : Ref .struct)
  | enum (r : Ref .enum)
  | typedef (r : Ref .typedef)
  | constant (r : Ref .constant)
  /-- The item of an enum at a position. -/
  | item (r : Ref .enum) (position : Nat)
  deriving DecidableEq

namespace Program

/-- The file that declares an entity. -/
def owner? (p : Program) : Entity → Option (Ref .file)
  | .struct r => (p.struct? r).map Struct.file
  | .enum r => (p.enum? r).map Enum.file
  | .typedef r => (p.typedef? r).map Typedef.file
  | .constant r => (p.constant? r).map Constant.file
  | .item r position => do
    let e ← p.enum? r
    let _ ← e.items[position]?
    return e.file

/-- The Go identifier of an entity. -/
def identOf? (p : Program) : Entity → Option String
  | .struct r => (p.struct? r).map fun s => goName s.name s.annotations
  | .enum r => (p.enum? r).map fun e => goName e.name e.annotations
  | .typedef r => (p.typedef? r).map fun t => goName t.name t.annotations
  | .constant r => (p.constant? r).map fun c => goName c.name c.annotations
  | .item r position => do
    let e ← p.enum? r
    let item ← e.items[position]?
    return itemName (goName e.name e.annotations) item

end Program

/-- The line that declares an item of an enum. -/
def itemLine (width : Nat) (ident enumIdent : String) (value : Int32) : Line :=
  ⟨1, padRight width ident ++ s!" {enumIdent} = " ++ toString value.toInt⟩

namespace Env

/-- This is the code that the run has for an entity, and it declares the entity under this name. -/
def Declares (env : Env) (ident : String) (code : Code) : Entity → Prop
  | .struct r => ∃ s, env.program.struct? r = some s ∧ Answers (env.structCode s) code ∧
      code.head? = some ⟨0, s!"type {ident} struct" ++ " \x7b"⟩
  | .enum r => ∃ e, env.program.enum? r = some e ∧ Answers (env.enumCode e) code ∧
      code.head? = some ⟨0, s!"type {ident} int32"⟩
  | .typedef r => ∃ t, ∃ target : String, env.program.typedef? r = some t ∧ Answers (env.typedefCode t) code ∧
      code.head? = some ⟨0, s!"type {ident} {target}"⟩
  | .constant r => ∃ c keyword, ∃ type value : String,
      env.program.constant? r = some c ∧ Answers (env.constantCode c) code ∧
      code.head? = some ⟨0, s!"{constantKeyword keyword} {ident} {type} = {value}"⟩
  | .item r position => ∃ e item width name, env.program.enum? r = some e ∧ e.items[position]? = some item ∧
      env.program.identOf? (.enum r) = some name ∧ Answers (env.enumCode e) code ∧
      itemLine width ident name item.value ∈ code

variable {env : Env}

theorem constantCode_declares (c : Constant) :
    Gives (env.constantCode c) fun code => ∃ keyword, ∃ type value : String,
      code.head? = some ⟨0, s!"{constantKeyword keyword} {goName c.name c.annotations} {type} = {value}"⟩ := by
  refine .bind fun ident hident => .bind fun _ _ => .bind fun type _ => .bind fun value _ => ?_
  obtain ⟨-, rfl⟩ := identifier_eq_ok.mp hident.of_lift
  exact .bind fun keyword _ => .pure ⟨keyword, type, value, rfl⟩

theorem typedefCode_declares (t : Typedef) :
    Gives (env.typedefCode t) fun code => ∃ target : String,
      code.head? = some ⟨0, s!"type {goName t.name t.annotations} {target}"⟩ := by
  refine .bind fun _ _ => .bind fun name hname => .bind fun _ _ => .bind fun _ _ => .bind fun _ _ => ?_
  refine .bind fun _ _ => .bind fun _ _ => .bind fun _ _ => ?_
  obtain ⟨-, rfl⟩ := identifier_eq_ok.mp hname.of_lift
  dsimp only
  refine .ite (.bind fun _ _ => ?_) (.bind fun _ _ => .bind fun _ _ => ?_)
  all_goals exact .bind fun _ _ => .bind fun _ _ => .pure ⟨_, rfl⟩

theorem structCode_declares (s : Struct) :
    Gives (env.structCode s) fun code =>
      code.head? = some ⟨0, s!"type {goName s.name s.annotations} struct" ++ " \x7b"⟩ := by
  refine .bind fun ident hident => .bind fun _ _ => .bind fun _ _ => .bind fun _ _ => .bind fun _ _ => ?_
  refine .bind fun _ _ => .bind fun _ _ => .bind fun _ _ => .bind fun _ _ => ?_
  obtain ⟨-, rfl⟩ := identifier_eq_ok.mp hident.of_lift
  exact .pure rfl

theorem mem_itemConstants {layout : ItemLayout} {layouts : List ItemLayout} (h : layout ∈ layouts)
    (name : String) :
    ∃ width, itemLine width layout.ident name layout.value ∈ itemConstants name layouts := by
  refine ⟨columnWidth (layouts.map ItemLayout.ident), ?_⟩
  rw [itemConstants, if_neg (by simpa using List.ne_nil_of_mem h)]
  refine List.mem_append_left _ (List.mem_append_left _ (List.mem_append_right _ ?_))
  exact List.mem_map.mpr ⟨_, List.mem_map.mpr ⟨_, List.mem_map.mpr ⟨layout, h, rfl⟩, rfl⟩, rfl⟩

theorem enumCode_declares (e : Enum) :
    Gives (env.enumCode e) fun code =>
      code.head? = some ⟨0, s!"type {goName e.name e.annotations} int32"⟩ ∧
      ∀ item ∈ e.items, ∃ width, itemLine width (itemName (goName e.name e.annotations) item)
        (goName e.name e.annotations) item.value ∈ code := by
  refine .bind fun name hname => .bind fun layouts hlayouts => .bind fun _ _ => .bind fun _ _ => ?_
  refine .bind fun _ _ => .bind fun _ _ => .bind fun _ _ => .bind fun _ _ => ?_
  obtain ⟨-, rfl⟩ := identifier_eq_ok.mp hname.of_lift
  have hitem : ∀ item ∈ e.items, ∃ width, itemLine width (itemName (goName e.name e.annotations) item)
      (goName e.name e.annotations) item.value ∈ itemConstants (goName e.name e.annotations) layouts := by
    intro item hitem
    obtain ⟨layout, hlayout, h⟩ := Except.exists_of_mapM hlayouts.of_lift item hitem
    obtain ⟨ident, hident, h⟩ := Except.bind_eq_ok.mp h
    cases h
    obtain ⟨-, rfl⟩ := itemIdent_eq_ok.mp hident
    exact mem_itemConstants hlayout _
  dsimp only
  refine .ite (.bind fun _ _ => .pure ?_) (.bind fun _ _ => .bind fun _ _ => .pure ?_)
  all_goals
    refine ⟨rfl, fun item hmem => ?_⟩
    obtain ⟨width, hline⟩ := hitem item hmem
    exact ⟨width, by simp only [List.mem_append, hline, true_or, or_true]⟩

/-- The parts of the code of a file that its constants, enums, typedefs and structs have. -/
structure Covers (env : Env) (code : Code) : Prop where
  constants : ∀ r c, env.program.constant? r = some c → c.file = env.file →
    ∃ part, Answers (env.constantCode c) part ∧ part <:+: code
  enums : ∀ r e, env.program.enum? r = some e → e.file = env.file →
    ∃ part, Answers (env.enumCode e) part ∧ part <:+: code
  typedefs : ∀ r t, env.program.typedef? r = some t → t.file = env.file →
    ∃ part, Answers (env.typedefCode t) part ∧ part <:+: code
  structs : ∀ r s, env.program.struct? r = some s → s.file = env.file →
    ∃ part, Answers (env.structCode s) part ∧ part <:+: code

theorem covers_of_declarationsCode {functions : FunctionTable} {code : Code}
    (h : Answers (env.declarationsCode functions) code) : env.Covers code := by
  obtain ⟨constants, hconstants, h⟩ := h.of_bind
  obtain ⟨enums, henums, h⟩ := h.of_bind
  obtain ⟨typedefs, htypedefs, h⟩ := h.of_bind
  obtain ⟨structs, hstructs, h⟩ := h.of_bind
  obtain ⟨services, -, h⟩ := h.of_bind
  obtain rfl := h.of_pure
  have hpart {α : Type} {f : α → Emit Code} {as : List α} {parts : List Code} (hparts : Answers (as.mapM f) parts)
      (hsub : parts ⊆ constants ++ enums ++ typedefs ++ structs ++ services) {q : α → Prop} [DecidablePred q]
      {all : List α} {position : Nat} {a : α} (has : as = all.filter fun a => decide (q a))
      (ha : all[position]? = some a) (hq : q a) :
      ∃ part, Answers (f a) part ∧ part <:+: (constants ++ enums ++ typedefs ++ structs ++ services).flatten := by
    have hmem : a ∈ as := has ▸ List.mem_filter.mpr ⟨List.mem_of_getElem? ha, decide_eq_true hq⟩
    obtain ⟨part, hpart, hanswer⟩ := hparts.of_mapM a hmem
    exact ⟨part, hanswer, List.infix_of_mem_flatten (hsub hpart)⟩
  refine ⟨fun r c hc => hpart hconstants ?_ rfl hc, fun r e he => hpart henums ?_ rfl he,
    fun r t ht => hpart htypedefs ?_ rfl ht, fun r s hs => hpart hstructs ?_ rfl hs⟩
  all_goals simp +contextual [List.subset_def]

/-- An entity of this file is declared under its identifier. -/
theorem Covers.declares {code : Code} (h : env.Covers code) {e : Entity} {ident : String}
    (howner : env.program.owner? e = some env.file) (hident : env.program.identOf? e = some ident) :
    ∃ part, env.Declares ident part e ∧ part <:+: code := by
  cases e with
  | struct r =>
    obtain ⟨s, hs, hfile⟩ := Option.map_eq_some_iff.mp howner
    obtain rfl : goName s.name s.annotations = ident := by simpa [Program.identOf?, hs] using hident
    obtain ⟨part, hpart, hinfix⟩ := h.structs r s hs hfile
    exact ⟨part, ⟨s, hs, hpart, structCode_declares s part hpart⟩, hinfix⟩
  | enum r =>
    obtain ⟨e, he, hfile⟩ := Option.map_eq_some_iff.mp howner
    obtain rfl : goName e.name e.annotations = ident := by simpa [Program.identOf?, he] using hident
    obtain ⟨part, hpart, hinfix⟩ := h.enums r e he hfile
    exact ⟨part, ⟨e, he, hpart, (enumCode_declares e part hpart).1⟩, hinfix⟩
  | typedef r =>
    obtain ⟨t, ht, hfile⟩ := Option.map_eq_some_iff.mp howner
    obtain rfl : goName t.name t.annotations = ident := by simpa [Program.identOf?, ht] using hident
    obtain ⟨part, hpart, hinfix⟩ := h.typedefs r t ht hfile
    obtain ⟨target, hline⟩ := typedefCode_declares t part hpart
    exact ⟨part, ⟨t, target, ht, hpart, hline⟩, hinfix⟩
  | constant r =>
    obtain ⟨c, hc, hfile⟩ := Option.map_eq_some_iff.mp howner
    obtain rfl : goName c.name c.annotations = ident := by simpa [Program.identOf?, hc] using hident
    obtain ⟨part, hpart, hinfix⟩ := h.constants r c hc hfile
    obtain ⟨keyword, type, value, hline⟩ := constantCode_declares c part hpart
    exact ⟨part, ⟨c, keyword, type, value, hc, hpart, hline⟩, hinfix⟩
  | item r position =>
    obtain ⟨e, he, howner⟩ := Option.bind_eq_some_iff.mp howner
    obtain ⟨item, hitem, howner⟩ := Option.bind_eq_some_iff.mp howner
    obtain rfl : itemName (goName e.name e.annotations) item = ident := by
      simpa [Program.identOf?, he, hitem] using hident
    obtain ⟨part, hpart, hinfix⟩ := h.enums r e he (Option.some.inj howner)
    obtain ⟨width, hline⟩ := (enumCode_declares e part hpart).2 item (List.mem_of_getElem? hitem)
    exact ⟨part, ⟨e, item, width, _, he, hitem, by simp [Program.identOf?, he], hpart, hline⟩, hinfix⟩

end Env

/-- The code of the draft declares the entity under this name. -/
def Draft.Declares (d : Draft) (e : Entity) (ident : String) : Prop :=
  ∃ code, d.env.Declares ident code e ∧ code <:+: d.code

end GoSchema
