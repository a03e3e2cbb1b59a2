import GoSchema.Proofs.KeyTexts
import GoSchema.Proofs.MemberNames

/-!
# The keys of composite literals

The literal of a keyed set, of a keyed map and of a struct has keys: the members, the keys of the entries and the
fields that are set. Nothing keeps a value from having a key twice, and then its literal has it twice, which Go
refuses. What can be said is that the literal repeats a key exactly if the value does, wherever in a constant or in a
default the value stands (`Program.repeats_key_iff`).

The literal of a value is put together from those of its parts, so where there is code for the whole, each part has
got a literal (`Env.answers_of_inside`).

## What is proved

* `Env.answers_set`, `Env.answers_map` and `Env.answers_struct`: the literal of a composite value, with its parts.
* `Env.nodup_spelled_iff` and `Env.nodup_idents_iff`: the texts of keys repeat exactly as the keys, for scalars and
  for fields.
* `Program.repeats_key_iff`: wherever in a constant or in a default of a file a value with keys stands, its literal
  repeats a key exactly if the value does.
* `Program.keys_written_twice`: a program with repeated keys passes all checks, and one in which different keys are
  written alike shows what the conditions are for.

The check of a program does not look at repeated keys, and neither does generation. That Go refuses such a literal
is known of Go.
-/

namespace GoSchema

open Go Name Relation

/-- If only equal elements are related to equal ones, a list without repetitions is related to such lists only. -/
theorem nodup_of_forall₂ {α β : Type} {R : α → β → Prop} {as : List α} {bs : List β} (h : List.Forall₂ R as bs)
    (hinj : ∀ a ∈ as, ∀ a' ∈ as, ∀ b b', R a b → R a' b' → b = b' → a = a') (has : as.Nodup) : bs.Nodup := by
  induction h with
  | nil => exact List.nodup_nil
  | @cons a b as bs hab hrest ih =>
    obtain ⟨hnotMem, has⟩ := List.nodup_cons.mp has
    refine List.nodup_cons.mpr ⟨fun hb => ?_, ih (fun a ha a' ha' => ?_) has⟩
    · obtain ⟨a', ha', hab'⟩ := exists_mem_left_of_forall₂ hrest hb
      have heq := hinj a List.mem_cons_self a' (List.mem_cons_of_mem _ ha') b b hab hab' rfl
      exact hnotMem (heq ▸ ha')
    · exact hinj a (List.mem_cons_of_mem _ ha) a' (List.mem_cons_of_mem _ ha')

/-! ### Literals and those of their parts -/

namespace Env

variable {env : Env} {site : Site} {text : String}

theorem answers_itemLiterals {e : Ty} {items : List Value} {members : List String}
    (h : Answers (env.itemLiterals site e items) members) :
    List.Forall₂ (fun v member => Answers (env.literal site e v) member) items members := by
  induction items generalizing members with
  | nil =>
    rw [itemLiterals] at h
    rw [← h.of_pure]
    exact .nil
  | cons v items ih =>
    rw [itemLiterals] at h
    obtain ⟨member, hmember, h⟩ := h.of_bind
    obtain ⟨rest, hrest, h⟩ := h.of_bind
    rw [← h.of_pure]
    exact .cons hmember (ih hrest)

theorem answers_entryLiterals {k v : Ty} {keyed : Bool} {entries : List (Value × Value)} {texts : List String}
    (h : Answers (env.entryLiterals site k v keyed entries) texts) :
    ∃ keys values, List.Forall₂ (fun key text => Answers (env.literal site k key) text) (entries.map Prod.fst) keys ∧
      List.Forall₂ (fun value text => Answers (env.literal site v value) text) (entries.map Prod.snd) values ∧
      texts = List.zipWith (mapEntry keyed) keys values := by
  induction entries generalizing texts with
  | nil =>
    rw [entryLiterals] at h
    exact ⟨[], [], .nil, .nil, h.of_pure.symm⟩
  | cons entry entries ih =>
    obtain ⟨key, value⟩ := entry
    rw [entryLiterals] at h
    obtain ⟨keyText, hkey, h⟩ := h.of_bind
    obtain ⟨valueText, hvalue, h⟩ := h.of_bind
    obtain ⟨rest, hrest, h⟩ := h.of_bind
    obtain ⟨keys, values, hkeys, hvalues, rfl⟩ := ih hrest
    exact ⟨keyText :: keys, valueText :: values, .cons hkey hkeys, .cons hvalue hvalues, h.of_pure.symm⟩

/-- A key of a struct literal names a field, whose identifier stands for it. -/
def NamesField (fields : List Field) (key : Value) (ident : String) : Prop :=
  ∃ name f, key = .string name ∧ findField? fields name = some f ∧ goName f.name f.annotations = ident

/-- The text is what the field of an entry holds for its value. -/
def HoldsValue (env : Env) (site : Site) (s : Struct) (entry : Value × Value) (text : String) : Prop :=
  ∃ slot expr, env.fieldSlot site s entry.1 = .ok slot ∧ Answers (env.literal site slot.type entry.2) expr ∧
    Answers (env.held slot.type slot.required expr) text

/-- An assignment of a struct literal. -/
def assignment (ident value : String) : String := ident ++ ": " ++ value

theorem answers_fieldLiterals {s : Struct} {entries : List (Value × Value)} {texts : List String}
    (h : Answers (env.fieldLiterals site s entries) texts) :
    ∃ idents values, List.Forall₂ (NamesField s.fields) (entries.map Prod.fst) idents ∧
      List.Forall₂ (env.HoldsValue site s) entries values ∧ texts = List.zipWith assignment idents values := by
  induction entries generalizing texts with
  | nil =>
    rw [fieldLiterals] at h
    exact ⟨[], [], .nil, .nil, h.of_pure.symm⟩
  | cons entry entries ih =>
    obtain ⟨key, value⟩ := entry
    rw [fieldLiterals] at h
    obtain ⟨slot, hslot, h⟩ := h.of_bind
    obtain ⟨expr, hexpr, h⟩ := h.of_bind
    obtain ⟨held, hheld, h⟩ := h.of_bind
    obtain ⟨rest, hrest, h⟩ := h.of_bind
    obtain ⟨idents, values, hidents, hvalues, rfl⟩ := ih hrest
    obtain ⟨name, f, hkey, hf, -, hident⟩ := field_of_fieldSlot hslot.of_lift
    exact ⟨slot.ident :: idents, held :: values, .cons ⟨name, f, hkey, hf, hident⟩ hidents,
      .cons ⟨slot, expr, hslot.of_lift, hexpr, hheld⟩ hvalues, h.of_pure.symm⟩

/-- The literal of a value of a set. -/
theorem answers_set {e : Ty} {a : Annotations} {items : List Value}
    (h : Answers (env.literal site (.set e a) (.list items)) text) :
    ∃ t members keyed, env.goType (.set e a) = .ok t ∧ env.program.isKeyedSet? e a = some keyed ∧
      List.Forall₂ (fun v member => Answers (env.literal site e v) member) items members ∧
      text = composite t.text (if keyed then members.map keyedMember else members) := by
  rw [literal, layers_eq (.stop rfl), lift_ok_bind] at h
  obtain ⟨type, htype, h⟩ := h.of_bind
  obtain ⟨members, hmembers, h⟩ := h.of_bind
  obtain ⟨keyed, hkeyed, h⟩ := h.of_bind
  obtain ⟨t, ht, rfl⟩ := typeText_eq htype
  exact ⟨t, members, keyed, ht, present_eq_ok.mp hkeyed.of_lift, answers_itemLiterals hmembers, h.of_pure.symm⟩

/-- The literal of a value of a map. -/
theorem answers_map {k v : Ty} {entries : List (Value × Value)}
    (h : Answers (env.literal site (.map k v) (.map entries)) text) :
    ∃ t keys values keyed, env.goType (.map k v) = .ok t ∧ env.program.isHashable? k = some keyed ∧
      List.Forall₂ (fun key text => Answers (env.literal site k key) text) (entries.map Prod.fst) keys ∧
      List.Forall₂ (fun value text => Answers (env.literal site v value) text) (entries.map Prod.snd) values ∧
      text = composite t.text (List.zipWith (mapEntry keyed) keys values) := by
  rw [literal, layers_eq (.stop rfl), lift_ok_bind] at h
  obtain ⟨type, htype, h⟩ := h.of_bind
  obtain ⟨keyed, hkeyed, h⟩ := h.of_bind
  obtain ⟨texts, htexts, h⟩ := h.of_bind
  obtain ⟨t, ht, rfl⟩ := typeText_eq htype
  obtain ⟨keys, values, hkeys, hvalues, rfl⟩ := answers_entryLiterals htexts
  exact ⟨t, keys, values, keyed, ht, present_eq_ok.mp hkeyed.of_lift, hkeys, hvalues, h.of_pure.symm⟩

/-- The literal of a value of a struct. -/
theorem answers_struct {r : Ref .struct} {entries : List (Value × Value)}
    (h : Answers (env.literal site (.struct r) (.map entries)) text) :
    ∃ s ref texts, env.program.struct? r = some s ∧ env.structRef r = .ok ref ∧
      Answers (env.fieldLiterals site s entries) texts ∧ text = composite ("&" ++ ref.text) texts := by
  rw [literal, layers_eq (.stop rfl), lift_ok_bind] at h
  obtain ⟨s, hs, h⟩ := h.of_bind
  obtain ⟨ref, href, h⟩ := h.of_bind
  obtain ⟨ident, hident, h⟩ := h.of_bind
  obtain ⟨texts, htexts, h⟩ := h.of_bind
  rw [← text_of_refer hident] at h
  exact ⟨s, ref, texts, present_eq_ok.mp hs.of_lift, href.of_lift, htexts, h.of_pure.symm⟩

theorem answers_of_mem {ty : Ty} {vs : List Value} {texts : List String}
    (h : List.Forall₂ (fun v text => Answers (env.literal site ty v) text) vs texts) {v : Value} (hv : v ∈ vs) :
    ∃ text, Answers (env.literal site ty v) text := by
  obtain ⟨text, -, htext⟩ := exists_mem_left_of_forall₂ h.flip hv
  exact ⟨text, htext⟩

/-- What has a literal has literals of its parts. -/
theorem answers_of_inside (hp : env.program.Sound) {ty ty' : Ty} {v v' : Value}
    (hpart : env.program.Inside (ty', v') (ty, v)) (hty : env.program.TypeInRange ty)
    (h : Answers (env.literal site ty v) text) : ∃ text', Answers (env.literal site ty' v') text' := by
  cases hpart with
  | @layer r t _ ht hv =>
    obtain ⟨layers, root, hl⟩ := hp.unfolds hty
    cases hl with
    | stop hroot => cases hroot
    | @layer _ _ layers _ ht' hl =>
      obtain rfl := Option.some.inj (ht.symm.trans ht')
      have hconvert : env.convert (r :: layers) = fun expr => env.convert layers expr >>= env.convert [r] :=
        funext fun expr => convert_append [r] layers expr
      rw [literal_eq (.layer ht hl) hv, hconvert, ← bind_assoc, ← literal_eq hl hv] at h
      obtain ⟨expr, hexpr, -⟩ := h.of_bind
      exact ⟨expr, hexpr⟩
  | item hmem =>
    rw [literal, layers_eq (.stop rfl), lift_ok_bind] at h
    obtain ⟨type, -, h⟩ := h.of_bind
    obtain ⟨members, hmembers, -⟩ := h.of_bind
    exact answers_of_mem (answers_itemLiterals hmembers) hmem
  | member hmem =>
    obtain ⟨t, members, keyed, -, -, hmembers, -⟩ := answers_set h
    exact answers_of_mem hmembers hmem
  | key hmem =>
    obtain ⟨t, keys, values, keyed, -, -, hkeys, -, -⟩ := answers_map h
    exact answers_of_mem hkeys (List.mem_map_of_mem hmem)
  | value hmem =>
    obtain ⟨t, keys, values, keyed, -, -, -, hvalues, -⟩ := answers_map h
    exact answers_of_mem hvalues (List.mem_map_of_mem hmem)
  | field hs hmem hf =>
    obtain ⟨s, ref, texts, hs', -, htexts, -⟩ := answers_struct h
    cases hs.symm.trans hs'
    obtain ⟨idents, values, -, hvalues, -⟩ := answers_fieldLiterals htexts
    obtain ⟨value, -, slot, expr, hslot, hexpr, -⟩ := exists_mem_left_of_forall₂ hvalues.flip hmem
    obtain ⟨name, f, hname, hf', htype, -⟩ := field_of_fieldSlot hslot
    cases hname
    cases hf.symm.trans hf'
    exact ⟨expr, htype ▸ hexpr⟩

theorem answers_of_inside_star (hp : env.program.Sound) {part whole : Ty × Value}
    (hpart : ReflTransGen env.program.Inside part whole)
    (hwhole : env.program.TypeInRange whole.1 ∧ env.program.ValueInRange whole.2)
    (h : Answers (env.literal site whole.1 whole.2) text) :
    ∃ text', Answers (env.literal site part.1 part.2) text' := by
  induction hpart using ReflTransGen.head_induction_on with
  | refl => exact ⟨text, h⟩
  | head hstep hrest ih =>
    obtain ⟨text', htext'⟩ := ih
    exact answers_of_inside hp hstep (Program.inRange_of_inside hp hrest hwhole).1 htext'

/-! ### Literals of constants and defaults -/

/-- The accessors of a member have the literal of its default. -/
theorem answers_default {r : Record} {ms : List Member} {code : Code} (h : Answers (env.recordCode r ms) code)
    {m : Member} (hm : m ∈ ms) {v : Value} (hv : m.default = some v) :
    ∃ text, Answers (env.literal (env.site ("default of " ++ m.entity)) m.type v) text := by
  obtain ⟨_, -, h⟩ := h.of_bind
  obtain ⟨_, -, h⟩ := h.of_bind
  obtain ⟨_, -, h⟩ := h.of_bind
  obtain ⟨_, -, h⟩ := h.of_bind
  obtain ⟨_, -, h⟩ := h.of_bind
  obtain ⟨accessors, haccessors, -⟩ := h.of_bind
  obtain ⟨part, -, hpart⟩ := haccessors.of_mapM m hm
  obtain ⟨_, -, hpart⟩ := hpart.of_bind
  dsimp only at hpart
  rw [hv] at hpart
  obtain ⟨_, hdefault, -⟩ := hpart.of_bind
  obtain ⟨text, htext, -⟩ := hdefault.of_map
  exact ⟨text, htext⟩

end Env

namespace Program

variable {p : Program} {file : Ref .file} {o : Options} {d : Draft} {ty : Ty} {v : Value}

/-- The values that the code for a file writes have got literals. -/
theorem answers_of_renders (hd : p.draft file o = .ok d) (h : p.Renders file ty v) :
    ∃ site text, Answers (d.env.literal site ty v) text := by
  obtain ⟨rfl, rfl, hcovers⟩ := draft_covers hd
  cases h with
  | constant hc hfile =>
    obtain ⟨part, hpart, -⟩ := hcovers.constants _ _ hc hfile
    obtain ⟨type, value, keyword, hvalue, -⟩ := Env.answers_constantCode hpart
    exact ⟨_, value, hvalue⟩
  | @default _ s f _ hs hfile hunion hf hdefault =>
    obtain ⟨part, hpart, -⟩ := hcovers.structs _ _ hs hfile
    obtain ⟨ms, hms, hcode⟩ := Env.structCode_record hpart
    obtain ⟨laid, names, hlaid, rfl⟩ := Env.members_of_layout hms
    have hview : (assignFlags names laid).map (fun m => (m.type, m.default)) =
        s.fields.map fun f => (f.type, f.default) := by
      rw [map_assignFlags (fun _ _ => rfl)]
      refine Env.map_of_laysOut (fun field m hlays => ?_) (Env.laysOut_members hlaid)
      rw [hlays.default_eq, hlays.eqs.2.2.2.1, if_neg (by simp [Record.isUnion, Struct.record, hunion])]
    obtain ⟨m, hm, heq⟩ := List.mem_map.mp (hview ▸ List.mem_map_of_mem hf)
    obtain ⟨htype, hmember⟩ := Prod.mk.inj heq
    obtain ⟨text, htext⟩ := Env.answers_default hcode hm (hmember.trans hdefault)
    exact ⟨_, text, htype ▸ htext⟩

end Program

/-! ### Fields that are laid out -/

namespace Env

variable {env : Env} {r : Record}

/-- Fields that are laid out have been granted their names. -/
theorem granted_of_membersFrom {fields : List Field} {claims : Claims} {granted : List Claim}
    {x : List Member × Claims} (hgranted : claims.Granted granted) (h : env.membersFrom r claims fields = .ok x) :
    x.2.Granted (granted ++ fields.map (env.fieldClaim r)) := by
  induction fields generalizing claims granted x with
  | nil =>
    cases h
    simpa using hgranted
  | cons f fields ih =>
    rw [membersFrom] at h
    obtain ⟨_, -, h⟩ := Except.bind_eq_ok.mp h
    obtain ⟨ident, hident, h⟩ := Except.bind_eq_ok.mp h
    obtain ⟨claims', hclaim, h⟩ := Except.bind_eq_ok.mp h
    obtain ⟨_, -, h⟩ := Except.bind_eq_ok.mp h
    obtain ⟨y, hy, h⟩ := Except.bind_eq_ok.mp h
    cases h
    obtain ⟨hvalid, rfl⟩ := identifier_eq_ok.mp hident
    have hinit : (env.fieldClaim r f).ident ≠ initHook := by
      intro heq
      refine head?_goName_ne hvalid f.name (x := 'i') (by decide) ?_
      rw [show goName f.name f.annotations = initHook from heq]
      rfl
    rcases hgranted.claim hinit with ⟨claims'', hclaim', hgranted'⟩ | ⟨existing, -, herror⟩
    · obtain rfl : claims' = claims'' := Except.ok.inj (hclaim.symm.trans hclaim')
      rw [List.map_cons, List.append_cons]
      have hrest := ih hgranted' hy
      exact hrest
    · cases hclaim.symm.trans herror

/-- The fields of a record that is laid out have different identifiers. -/
theorem nodup_of_layout {ms : List Member} (h : Answers (env.layout r) ms) :
    (r.fields.map fun f => goName f.name f.annotations).Nodup := by
  obtain ⟨laid, _, hlaid, -⟩ := members_of_layout h
  obtain ⟨x, hx, -⟩ := Except.bind_eq_ok.mp hlaid
  have hnodup := (granted_of_membersFrom Claims.Granted.empty hx).apart.1
  rw [List.nil_append, List.map_map] at hnodup
  exact hnodup

end Env

namespace Program

variable {p : Program} {file : Ref .file} {o : Options} {d : Draft}

/-- Where there is code for its file, the fields of a struct have different identifiers. -/
theorem nodup_fields_of_draft {r : Ref .struct} {s : Struct} (hs : p.struct? r = some s)
    (hd : p.draft s.file o = .ok d) : (s.fields.map fun f => goName f.name f.annotations).Nodup := by
  obtain ⟨rfl, hfile, hcovers⟩ := draft_covers hd
  obtain ⟨part, hpart, -⟩ := hcovers.structs r s hs hfile.symm
  obtain ⟨ms, hms, -⟩ := Env.structCode_record hpart
  exact Env.nodup_of_layout hms

end Program

/-! ### Repeated keys -/

namespace Program

/-- The keys of the literal of a value, or nothing if its literal has no keys. A key of a struct is a text. -/
def literalKeys? (p : Program) : Ty → Value → Option (List (Option Key))
  | .set e a, .list items => if p.isKeyedSet? e a = some true then some (items.map (p.literalKey? e)) else none
  | .map k _, .map entries =>
    if p.isHashable? k = some true then some ((entries.map Prod.fst).map (p.literalKey? k)) else none
  | .struct _, .map entries => some ((entries.map Prod.fst).map (p.literalKey? (.base .string)))
  | _, _ => none

end Program

namespace Env

/-- The text is the literal of a value, and these are the keys that it has: the members of a keyed set, the keys of
the entries of a keyed map, and the identifiers of the fields of a struct. -/
inductive WritesKeys (env : Env) (site : Site) : Ty → Value → List String → String → Prop where
  | set {e : Ty} {a : Annotations} {items : List Value} {members : List String} {t : GoType} :
      env.program.isKeyedSet? e a = some true → env.goType (.set e a) = .ok t →
      List.Forall₂ (fun v member => Answers (env.literal site e v) member) items members →
      env.WritesKeys site (.set e a) (.list items) members (composite t.text (members.map keyedMember))
  | map {k v : Ty} {entries : List (Value × Value)} {keys values : List String} {t : GoType} :
      env.program.isHashable? k = some true → env.goType (.map k v) = .ok t →
      List.Forall₂ (fun key text => Answers (env.literal site k key) text) (entries.map Prod.fst) keys →
      List.Forall₂ (fun value text => Answers (env.literal site v value) text) (entries.map Prod.snd) values →
      env.WritesKeys site (.map k v) (.map entries) keys
        (composite t.text (List.zipWith (mapEntry true) keys values))
  | struct {r : Ref .struct} {s : Struct} {entries : List (Value × Value)} {idents values : List String}
      {ref : Reference} : env.program.struct? r = some s → env.structRef r = .ok ref →
      List.Forall₂ (NamesField s.fields) (entries.map Prod.fst) idents →
      List.Forall₂ (env.HoldsValue site s) entries values →
      env.WritesKeys site (.struct r) (.map entries) idents
        (composite ("&" ++ ref.text) (List.zipWith assignment idents values))

variable {env : Env} {site : Site} {ty : Ty} {v : Value} {text : String} {keys : List (Option Key)}
  {texts : List String}

theorem writesKeys_of_literal (hkeys : env.program.literalKeys? ty v = some keys)
    (h : Answers (env.literal site ty v) text) : ∃ texts, env.WritesKeys site ty v texts text := by
  unfold Program.literalKeys? at hkeys
  split at hkeys
  · split_ifs at hkeys with hkeyed
    obtain ⟨t, members, keyed, ht, hkeyed', hmembers, rfl⟩ := answers_set h
    cases hkeyed.symm.trans hkeyed'
    exact ⟨members, .set hkeyed ht hmembers⟩
  · split_ifs at hkeys with hkeyed
    obtain ⟨t, keys, values, keyed, ht, hkeyed', hkeys, hvalues, rfl⟩ := answers_map h
    cases hkeyed.symm.trans hkeyed'
    exact ⟨keys, .map hkeyed ht hkeys hvalues⟩
  · obtain ⟨s, ref, texts, hs, href, htexts, rfl⟩ := answers_struct h
    obtain ⟨idents, values, hidents, hvalues, rfl⟩ := answers_fieldLiterals htexts
    exact ⟨idents, .struct hs href hidents hvalues⟩
  · cases hkeys

/-- The texts of scalar keys repeat a text exactly if the keys repeat a key. -/
theorem nodup_spelled_iff (hp : env.program.Sound) (hr : env.Registers) (hone : OneToOne env.packages)
    (hty : env.program.TypeInRange ty) (hscalar : env.program.isHashable? ty = some true) {vs : List Value}
    (h : List.Forall₂ (fun v text => Answers (env.literal site ty v) text) vs texts) :
    (texts.Nodup → (vs.map (env.program.literalKey? ty)).Nodup) ∧
      ((∀ k, some k ∈ vs.map (env.program.literalKey? ty) → k.WellNamed) → (vs.map (env.program.literalKey? ty)).Nodup →
        texts.Nodup) := by
  have hspelled : List.Forall₂ (fun key text => ∃ k, key = some k ∧ env.Spelled ty k text)
      (vs.map (env.program.literalKey? ty)) texts :=
    List.forall₂_map_left_iff.mpr (h.imp fun v text htext => spelled_of_literal hp hr hty hscalar htext)
  refine ⟨nodup_of_forall₂ hspelled.flip ?_, fun hnamed => nodup_of_forall₂ hspelled ?_⟩
  · rintro text - text' - _ _ ⟨k, rfl, hk⟩ ⟨k', rfl, hk'⟩ heq
    exact hk.text_eq hk' (Option.some.inj heq)
  · rintro _ hmem _ hmem' text text' ⟨k, rfl, hk⟩ ⟨k', rfl, hk'⟩ heq
    rw [hk.key_eq hone hk' (hnamed k hmem) (hnamed k' hmem') heq]

/-- The identifiers of a struct literal repeat one exactly if the keys do, where the fields have different ones. -/
theorem nodup_idents_iff {fields : List Field} {vs : List Value} {idents : List String}
    (h : List.Forall₂ (NamesField fields) vs idents) (ty : Ty) :
    (idents.Nodup → (vs.map (env.program.literalKey? ty)).Nodup) ∧
      ((fields.map fun f => goName f.name f.annotations).Nodup → (vs.map (env.program.literalKey? ty)).Nodup →
        idents.Nodup) := by
  have hnamed : List.Forall₂ (fun key ident => ∃ name f, key = some (.text name) ∧ findField? fields name = some f ∧
      goName f.name f.annotations = ident) (vs.map (env.program.literalKey? ty)) idents := by
    refine List.forall₂_map_left_iff.mpr (h.imp ?_)
    rintro _ ident ⟨name, f, rfl, hf, hident⟩
    exact ⟨name, f, rfl, hf, hident⟩
  refine ⟨nodup_of_forall₂ hnamed.flip ?_, fun hapart => nodup_of_forall₂ hnamed ?_⟩
  · rintro _ - _ - _ _ ⟨name, f, rfl, hf, rfl⟩ ⟨name', f', rfl, hf', rfl⟩ heq
    cases heq
    cases hf.symm.trans hf'
    rfl
  · rintro _ - _ - _ _ ⟨name, f, rfl, hf, rfl⟩ ⟨name', f', rfl, hf', rfl⟩ heq
    have hsame : f = f' :=
      List.inj_on_of_nodup_map hapart (List.mem_of_find?_eq_some hf) (List.mem_of_find?_eq_some hf') heq
    have hname : f.name = name := by simpa using List.find?_some hf
    have hname' : f'.name = name' := by simpa using List.find?_some hf'
    rw [← hname, ← hname', hsame]

/-- A literal repeats a key exactly if the value does. -/
theorem WritesKeys.nodup_iff (hp : env.program.Sound) (hr : env.Registers) (hone : OneToOne env.packages)
    (hty : env.program.TypeInRange ty) (hkeys : env.program.literalKeys? ty v = some keys)
    (h : env.WritesKeys site ty v texts text) :
    (texts.Nodup → keys.Nodup) ∧
      ((∀ k, some k ∈ keys → k.WellNamed) →
        (∀ r s, ty = .struct r → env.program.struct? r = some s →
          (s.fields.map fun f => goName f.name f.annotations).Nodup) → keys.Nodup → texts.Nodup) := by
  cases h with
  | @set e _ _ _ _ hkeyed ht hmembers =>
    rw [Program.literalKeys?, if_pos hkeyed] at hkeys
    cases hkeys
    have hscalar : env.program.isHashable? e = some true := by
      unfold Program.isKeyedSet? at hkeyed
      split_ifs at hkeyed
      · cases hkeyed
      · exact hkeyed
    obtain ⟨hto, hfrom⟩ := nodup_spelled_iff hp hr hone (Program.typeInRange_set.mp hty) hscalar hmembers
    exact ⟨hto, fun hnamed _ => hfrom hnamed⟩
  | map hkeyed ht hentries hvalues =>
    rw [Program.literalKeys?, if_pos hkeyed] at hkeys
    cases hkeys
    obtain ⟨hto, hfrom⟩ := nodup_spelled_iff hp hr hone (Program.typeInRange_map.mp hty).1 hkeyed hentries
    exact ⟨hto, fun hnamed _ => hfrom hnamed⟩
  | struct hs href hidents hvalues =>
    cases hkeys
    obtain ⟨hto, hfrom⟩ := nodup_idents_iff hidents (.base .string)
    exact ⟨hto, fun _ hapart => hfrom (hapart _ _ rfl hs)⟩

end Env

namespace Program

variable {p : Program} {file : Ref .file} {o : Options} {ty ty₀ : Ty} {v v₀ : Value}

/-- **A literal repeats a key exactly if the value does.** Wherever in a constant of the file or in a default a value
stands whose literal has keys, there is a literal of it, and every literal of it that the run gives has the keys of the
value in order. If these keys are different, so are those of the value. The converse holds if the names among the keys
are identifiers of Go and, for a struct, if it is one of the file or of one for which there is code too. -/
theorem repeats_key_iff {source : Source} (h : p.generate file o = .ok source) (hv₀ : p.Renders file ty₀ v₀)
    (hplace : ReflTransGen p.Inside (ty, v) (ty₀, v₀)) {keys : List (Option Key)}
    (hkeys : p.literalKeys? ty v = some keys) :
    ∃ d, p.draft file o = .ok d ∧ d.source = source ∧
      (∃ site text, Answers (d.env.literal site ty v) text) ∧
      ∀ site text, Answers (d.env.literal site ty v) text →
        ∃ texts, d.env.WritesKeys site ty v texts text ∧ (texts.Nodup → keys.Nodup) ∧
          ((∀ k, some k ∈ keys → k.WellNamed) →
            (∀ r s, ty = .struct r → p.struct? r = some s →
              s.file = file ∨ ∃ o' source', p.generate s.file o' = .ok source') →
            keys.Nodup → texts.Nodup) := by
  obtain ⟨d, hd, rfl⟩ := generate_eq_ok.mp h
  have hp := sound_of_draft hd
  obtain ⟨self, claims, _, _, hself, henv, -⟩ := draft_eq_env hd
  obtain ⟨hprogram, -, -, hregisters⟩ := Env.registers_of_ofFile hself henv
  have hone := (Env.aliases_of_ofFile henv).1
  have hwhole := hv₀.inRange hp
  have hty := (inRange_of_inside hp hplace hwhole).1
  obtain ⟨site, text₀, htext₀⟩ := answers_of_renders hd hv₀
  subst hprogram
  refine ⟨d, hd, rfl, ⟨site, Env.answers_of_inside_star hp hplace hwhole htext₀⟩, fun site text htext => ?_⟩
  obtain ⟨texts, hwrites⟩ := Env.writesKeys_of_literal hkeys htext
  obtain ⟨hto, hfrom⟩ := hwrites.nodup_iff hp hregisters hone hty hkeys
  refine ⟨texts, hwrites, hto, fun hnamed hcode => hfrom hnamed fun r s hr hs => ?_⟩
  rcases hcode r s hr hs with hfile | ⟨o', source', h'⟩
  · exact nodup_fields_of_draft hs (hfile ▸ hd)
  · obtain ⟨d', hd', -⟩ := generate_eq_ok.mp h'
    exact nodup_fields_of_draft hs hd'

/-- An item of an enum, a number and a constant. -/
def warmShades : Value := .list [.enumItem ⟨0⟩ 0, .int 7, .constant ⟨0⟩]

/-- A palette with these shades. -/
def warmPalette : Value := .map [(.string "name", .string "warm"), (.string "shades", warmShades)]

/-- A program with a list of palettes: structs, each with a set of shades, which are colors under another name. -/
def palettes : Program :=
  { Program.empty with
    files := [⟨"a.thrift", "ex/a", "a"⟩, ⟨"b.thrift", "ex/b", "b"⟩]
    typedefs := [⟨"Shade", ⟨0⟩, .enum ⟨0⟩, .empty⟩]
    structs := [⟨"Palette", ⟨0⟩, .struct, [⟨1, "name", .base .string, true, none, .empty⟩,
      ⟨2, "shades", .set (.typedef ⟨0⟩) .empty, true, none, .empty⟩], false, .empty⟩]
    enums := [⟨"Color", ⟨1⟩, [⟨"red", 1, .empty⟩, ⟨"blue", 2, .empty⟩], .empty⟩]
    constants := [⟨"favourite", ⟨1⟩, .enum ⟨0⟩, .enumItem ⟨0⟩ 1, .empty⟩,
      ⟨"palettes", ⟨0⟩, .list (.struct ⟨0⟩), .list [warmPalette], .empty⟩] }

theorem repeats_key_iff_palettes :
    ∃ d, palettes.draft ⟨0⟩ { noZap := true } = .ok d ∧
      (∃ site text, Answers (d.env.literal site (.struct ⟨0⟩) warmPalette) text) ∧
      (∀ site text, Answers (d.env.literal site (.struct ⟨0⟩) warmPalette) text →
        ∃ texts, d.env.WritesKeys site (.struct ⟨0⟩) warmPalette texts text ∧ texts.Nodup) ∧
      (∃ site text, Answers (d.env.literal site (.set (.typedef ⟨0⟩) .empty) warmShades) text) ∧
      ∀ site text, Answers (d.env.literal site (.set (.typedef ⟨0⟩) .empty) warmShades) text →
        ∃ texts, d.env.WritesKeys site (.set (.typedef ⟨0⟩) .empty) warmShades texts text ∧ texts.Nodup := by
  obtain ⟨source, hsource⟩ : ∃ source, palettes.generate ⟨0⟩ { noZap := true } = .ok source :=
    exists_source (by decide +kernel)
  have hrenders : palettes.Renders ⟨0⟩ (.list (.struct ⟨0⟩)) (.list [warmPalette]) :=
    @Renders.constant palettes ⟨0⟩ ⟨1⟩ _ rfl rfl
  have hstruct : palettes.Inside (.struct ⟨0⟩, warmPalette) (.list (.struct ⟨0⟩), .list [warmPalette]) :=
    .item List.mem_cons_self
  have hset : palettes.Inside (.set (.typedef ⟨0⟩) .empty, warmShades) (.struct ⟨0⟩, warmPalette) :=
    @Inside.field palettes ⟨0⟩ _ "shades" _ _ _ rfl (List.mem_cons_of_mem _ List.mem_cons_self) rfl
  have hfields : palettes.literalKeys? (.struct ⟨0⟩) warmPalette =
      some [some (.text "name"), some (.text "shades")] := rfl
  have hshades : palettes.literalKeys? (.set (.typedef ⟨0⟩) .empty) warmShades =
      some [some (.named true "ex/b" "ColorRed"), some (.number 7), some (.named false "ex/b" "Favourite")] := by
    decide +kernel
  obtain ⟨d, hd, -, hexists, hwrites⟩ := repeats_key_iff hsource hrenders (.single hstruct) hfields
  obtain ⟨d', hd', -, hexists', hwrites'⟩ :=
    repeats_key_iff hsource hrenders (.head hset (.single hstruct)) hshades
  obtain rfl : d = d' := Except.ok.inj (hd.symm.trans hd')
  refine ⟨d, hd, hexists, fun site text h => ?_, hexists', fun site text h => ?_⟩
  · obtain ⟨texts, htexts, -, hnodup⟩ := hwrites site text h
    refine ⟨texts, htexts, hnodup ?_ ?_ (by decide)⟩
    · simp [Key.WellNamed]
    · rintro r s hr hs
      cases hr
      cases hs
      exact .inl rfl
  · obtain ⟨texts, htexts, -, hnodup⟩ := hwrites' site text h
    refine ⟨texts, htexts, hnodup ?_ nofun (by decide)⟩
    have hident : isIdentifier "ColorRed" = true ∧ isIdentifier "Favourite" = true := by decide +kernel
    simp [Key.WellNamed, hident]

/-- A program with a set, a map and a struct that have a key twice; the key of the map is spelled in two ways. -/
def doubled : Program :=
  { Program.empty with
    files := [⟨"a.thrift", "ex/a", "a"⟩]
    structs := [⟨"Point", ⟨0⟩, .struct, [⟨1, "x", .base .i32, true, none, .empty⟩], false, .empty⟩]
    constants := [⟨"ones", ⟨0⟩, .set (.base .i32) .empty, .list [.int 1, .int 1], .empty⟩,
      ⟨"flags", ⟨0⟩, .map (.base .bool) (.base .i32), .map [(.bool true, .int 2), (.int 1, .int 2)], .empty⟩,
      ⟨"origin", ⟨0⟩, .struct ⟨0⟩, .map [(.string "x", .int 3), (.string "x", .int 3)], .empty⟩] }

/-- A program with different keys that are written alike: a number and a constant that is called like it, and two fields
of a struct for which there is no code. -/
def alike : Program :=
  { Program.empty with
    files := [⟨"a.thrift", "ex/a", "a"⟩, ⟨"b.thrift", "ex/b", "b"⟩]
    structs := [⟨"Clash", ⟨1⟩, .struct, [⟨1, "x", .base .i32, true, none, .empty⟩,
      ⟨2, "X", .base .i32, true, none, .empty⟩], false, .empty⟩]
    constants := [⟨"1", ⟨0⟩, .base .i32, .int 5, .empty⟩,
      ⟨"pair", ⟨0⟩, .set (.base .i32) .empty, .list [.int 1, .constant ⟨0⟩], .empty⟩,
      ⟨"clash", ⟨0⟩, .struct ⟨0⟩, .map [(.string "x", .int 1), (.string "X", .int 2)], .empty⟩] }

/-- Both programs pass their checks. The code of the first one has every key twice. That of the second one has twice
what is written for different keys, so neither proviso can be left out. -/
theorem keys_written_twice :
    (doubled.check = .ok () ∧ ∃ d, doubled.draft ⟨0⟩ { noZap := true } = .ok d ∧
      ["var Ones map[int32]struct\x7b\x7d = map[int32]struct\x7b\x7d\x7b1: struct\x7b\x7d\x7b\x7d" ++
          ", 1: struct\x7b\x7d\x7b\x7d\x7d",
        "var Flags map[bool]int32 = map[bool]int32\x7btrue: 2, true: 2\x7d",
        "var Origin *Point = &Point\x7bX: 3, X: 3\x7d"] ⊆ d.code.map Line.text) ∧
    alike.check = .ok () ∧
    ((alike.literalKeys? (.set (.base .i32) .empty) (.list [.int 1, .constant ⟨0⟩])).any (·.Nodup)) = true ∧
    ((alike.literalKeys? (.struct ⟨0⟩) (.map [(.string "x", .int 1), (.string "X", .int 2)])).any (·.Nodup)) = true ∧
    ∃ d, alike.draft ⟨0⟩ { noZap := true } = .ok d ∧
      ["var Pair map[int32]struct\x7b\x7d = map[int32]struct\x7b\x7d\x7b1: struct\x7b\x7d\x7b\x7d" ++
          ", 1: struct\x7b\x7d\x7b\x7d\x7d",
        "var Clash *b.Clash = &b.Clash\x7bX: 1, X: 2\x7d"] ⊆ d.code.map Line.text := by
  refine ⟨⟨by decide +kernel, exists_draft (by decide +kernel)⟩, by decide +kernel, by decide +kernel, by decide +kernel,
    exists_draft (by decide +kernel)⟩

end Program

end GoSchema
