import GoSchema.Proofs.LiteralChecks
import GoSchema.Proofs.RecordCodec

/-!
# References to constants

The value of a constant may be another constant. In a sound program, following such references ends
(`Program.Sound.exists_follows`), at a constant whose value is written out. The code for the file of that constant checks
the value against the type of that constant.

A literal does not look behind a reference. Where the type at the place of the reference and the type of the
constant at the end are the same below their typedefs, and there is code for the file of that constant too, the value
at the end is one for the place as well. Otherwise it need not be: an integer can be made of a text.

## What is proved

* `Program.Sound.exists_follows`: following references from any constant of a sound program ends.
* `Program.accepts_of_draft`: where there is code for its file, the value of a constant is accepted at its type.
* `Program.resolved_value_fits`: every reference that the code of a file writes leads to a constant with a written
  value, and this value fits the place under the two conditions above.
* `Program.resolved_value_unchecked`: neither condition can be left out. There is code in which an integer is a
  text, and code in which a small integer is too large.

What Go makes of such code is left to the compiler of Go, which refuses it.
-/

namespace GoSchema

open Relation

/-- The code of a constant: the literal of its value behind the keyword that the value allows. -/
theorem Env.answers_constantCode {env : Env} {c : Constant} {part : Go.Code}
    (h : Answers (env.constantCode c) part) :
    ∃ (type value : String) (keyword : Bool), Answers (env.literal (env.site c.entity) c.type c.value) value ∧
      env.program.isGoConstant? c = some keyword ∧
      part = Go.line s!"{constantKeyword keyword} {goName c.name c.annotations} {type} = {value}" ++ Go.blank := by
  obtain ⟨ident, hident, h⟩ := h.of_bind
  obtain ⟨-, -, h⟩ := h.of_bind
  obtain ⟨type, -, h⟩ := h.of_bind
  obtain ⟨value, hvalue, h⟩ := h.of_bind
  obtain ⟨keyword, hkeyword, h⟩ := h.of_bind
  obtain ⟨-, rfl⟩ := identifier_eq_ok.mp hident.of_lift
  exact ⟨type, value, keyword, hvalue, present_eq_ok.mp hkeyword.of_lift, h.of_pure.symm⟩

namespace Program

/-- Following references from a constant on passes these constants, itself included, and ends at the last of
them, whose value is written out. -/
inductive Follows (p : Program) : Ref .constant → List (Ref .constant) → Constant → Prop where
  | stop {r : Ref .constant} {c : Constant} : p.constant? r = some c → c.value.isReference = false →
      p.Follows r [r] c
  | next {r r' : Ref .constant} {c last : Constant} {rs : List (Ref .constant)} : p.constant? r = some c →
      c.value = .constant r' → p.Follows r' rs last → p.Follows r (r :: rs) last

/-- The code for the file writes this value at this type: that of a constant, or the default of a field. -/
inductive Renders (p : Program) (file : Ref .file) : Ty → Value → Prop where
  | constant {r : Ref .constant} {c : Constant} : p.constant? r = some c → c.file = file →
      p.Renders file c.type c.value
  | default {r : Ref .struct} {s : Struct} {f : Field} {v : Value} : p.struct? r = some s → s.file = file →
      s.kind ≠ .union → f ∈ s.fields → f.default = some v → p.Renders file f.type v

variable {p : Program} {file : Ref .file} {o : Options} {d : Draft} {r : Ref .constant} {c last : Constant}
  {rs : List (Ref .constant)} {ty ty₀ : Ty} {v v₀ : Value}

/-! ### Following references -/

/-- No walk along mentions of constants goes on for ever. -/
theorem Sound.mentions_acc (hp : p.Sound) {i : Nat} (hi : i < p.constants.length) :
    Acc (fun b a => p.Mentions a b) i := by
  have hnext : ∀ a, ∀ b ∈ p.constantEdges a, b < p.constants.length := by
    intro a b hb
    obtain ⟨c, r, hget, hpart, rfl⟩ := mem_constantEdges.mp hb
    exact (hp.constants c (List.mem_of_getElem? hget)).2.2 _ hpart
  obtain ⟨done, hdone⟩ := (Cycle.search_isOk_iff hnext).mpr (edge_constantEdges ▸ hp.acyclic)
  have houtcome := Cycle.outcome_search hnext
  rw [hdone] at houtcome
  obtain ⟨-, hmem, hgrounded⟩ := houtcome
  have hground := hgrounded i (hmem i (List.mem_range.mpr hi))
  rwa [Cycle.Grounded, edge_constantEdges] at hground

theorem mentions_of_value_eq {r' : Ref .constant} (hc : p.constant? r = some c) (hv : c.value = .constant r') :
    p.Mentions r.toNat r'.toNat := ⟨c, r', hc, hv ▸ .self _, rfl⟩

/-- Following references ends. -/
theorem Sound.exists_follows (hp : p.Sound) (hr : p.ValueInRange (.constant r)) :
    ∃ rs last, p.Follows r rs last := by
  have hacc := hp.mentions_acc (valueInRange_constant.mp hr)
  generalize hi : r.toNat = i at hacc
  induction hacc generalizing r with
  | intro i _ ih =>
    subst hi
    obtain ⟨c, hmem, hc⟩ := constant?_isSome hr
    cases hv : c.value.isReference with
    | false => exact ⟨[r], c, .stop hc hv⟩
    | true =>
      obtain ⟨r', hr'⟩ := Value.isReference_iff.mp hv
      have hrange : p.ValueInRange (.constant r') := hr' ▸ (hp.constants c hmem).2.2
      obtain ⟨rs, last, h⟩ := ih _ (mentions_of_value_eq hc hr') hrange rfl
      exact ⟨r :: rs, last, .next hc hr' h⟩

theorem Follows.unique (h : p.Follows r rs last) {rs' : List (Ref .constant)} {last' : Constant}
    (h' : p.Follows r rs' last') : rs = rs' ∧ last = last' := by
  induction h generalizing rs' with
  | stop hc hv =>
    cases h' with
    | stop hc' _ => exact ⟨rfl, Option.some.inj (hc.symm.trans hc')⟩
    | next hc' hr' _ =>
      cases hc.symm.trans hc'
      rw [hr'] at hv
      cases hv
  | next hc hr _ ih =>
    cases h' with
    | stop hc' hv' =>
      cases hc.symm.trans hc'
      rw [hr] at hv'
      cases hv'
    | next hc' hr' h' =>
      cases hc.symm.trans hc'
      cases hr.symm.trans hr'
      obtain ⟨rfl, rfl⟩ := ih h'
      exact ⟨rfl, rfl⟩

/-- The constant at the end is one of the program, and its value is written out. -/
theorem Follows.written (h : p.Follows r rs last) :
    (∃ r', p.constant? r' = some last) ∧ last.value.isReference = false := by
  induction h with
  | stop hc hv => exact ⟨⟨_, hc⟩, hv⟩
  | next _ _ _ ih => exact ih

/-! ### What the code for a file checks -/

/-- Where there is code for its file, the value of a constant is accepted at the type of the constant. -/
theorem accepts_of_draft (hc : p.constant? r = some c) (hd : p.draft c.file o = .ok d) :
    p.Accepts c.type c.value := by
  have hp := sound_of_draft hd
  obtain ⟨rfl, hfile, hcovers⟩ := draft_covers hd
  obtain ⟨part, hpart, -⟩ := hcovers.constants r c hc hfile.symm
  obtain ⟨type, value, keyword, ⟨run, run', hvalue⟩, -⟩ := Env.answers_constantCode hpart
  obtain ⟨-, hty, hv⟩ := hp.constants c (List.mem_of_getElem? hc)
  exact (Env.literal_settles hp hty hv).sound hvalue

theorem Renders.inRange (hp : p.Sound) (h : p.Renders file ty v) : p.TypeInRange ty ∧ p.ValueInRange v := by
  cases h with
  | constant hc _ => exact (hp.constants _ (List.mem_of_getElem? hc)).2
  | default hs _ _ hf hdefault =>
    have hfields := (hp.structs _ (List.mem_of_getElem? hs)).2
    exact ⟨hfields.types _ hf, hfields.defaults _ hf _ hdefault⟩

theorem inRange_of_inside (hp : p.Sound) {part whole : Ty × Value} (h : ReflTransGen p.Inside part whole)
    (hwhole : p.TypeInRange whole.1 ∧ p.ValueInRange whole.2) :
    p.TypeInRange part.1 ∧ p.ValueInRange part.2 := by
  induction h using ReflTransGen.head_induction_on with
  | refl => exact hwhole
  | head hstep _ ih => exact hstep.inRange hp ih.1 ih.2

/-- In a program for one of whose files there is code, every reference that the code writes at the place of a value
leads to a constant with a value that is written out. If that constant is of the same file, or of one for which there
is code too, and its type is that of the place below the typedefs, its value is accepted at the place: no literal of it
there is refused as a value. And what is not accepted there gets no literal at all. -/
theorem resolved_value_fits {source : Source} (h : p.generate file o = .ok source) (hv₀ : p.Renders file ty₀ v₀)
    (hplace : ReflTransGen p.Inside (ty, .constant r) (ty₀, v₀)) :
    ∃ rs last, p.Follows r rs last ∧
      ((last.file = file ∨ ∃ o' source', p.generate last.file o' = .ok source') →
        p.rootType? ty = p.rootType? last.type → p.Accepts ty last.value) ∧
      (p.Accepts ty last.value → ∀ env : Env, env.program = p → ∀ site run s fault,
        env.literal site ty last.value run ≠ .error (.badValue s fault)) ∧
      (¬ p.Accepts ty last.value → ∀ env : Env, env.program = p → ∀ site run text run',
        env.literal site ty last.value run ≠ .ok (text, run')) := by
  obtain ⟨d, hd, -⟩ := generate_eq_ok.mp h
  have hp := sound_of_draft hd
  obtain ⟨hty, hr⟩ := inRange_of_inside hp hplace (hv₀.inRange hp)
  obtain ⟨rs, last, hlast⟩ := hp.exists_follows hr
  obtain ⟨⟨r', hr'⟩, hwritten⟩ := hlast.written
  obtain ⟨-, hlasty, hlastv⟩ := hp.constants last (List.mem_of_getElem? hr')
  refine ⟨rs, last, hlast, fun hfile hroot => ?_, ?_, ?_⟩
  · obtain ⟨o', d', hd'⟩ : ∃ o' d', p.draft last.file o' = .ok d' := by
      rcases hfile with rfl | ⟨o', source', h'⟩
      · exact ⟨o, d, hd⟩
      · obtain ⟨d', hd', -⟩ := generate_eq_ok.mp h'
        exact ⟨o', d', hd'⟩
    obtain ⟨layers, root, hl⟩ := hp.unfolds hty
    obtain ⟨layers', root', hl'⟩ := hp.unfolds hlasty
    rw [hl.rootType?_eq, hl'.rootType?_eq, Option.some.injEq] at hroot
    subst hroot
    exact (hl.fits_iff hwritten).mpr ((hl'.fits_iff hwritten).mp (accepts_of_draft hr' hd'))
  · rintro haccepts env rfl site run s fault
    exact (Env.literal_settles hp hty hlastv).blameless haccepts run s fault
  · rintro hrefused env rfl site run text run' hok
    exact hrefused ((Env.literal_settles hp hty hlastv).sound hok)

/-- A program of two files. The first one has a list of tallies, the first of which is a constant that is a constant of
the second one, an integer. -/
def tallyProgram : Program :=
  { Program.empty with
    files := [⟨"a.thrift", "ex/a", "a"⟩, ⟨"b.thrift", "ex/b", "b"⟩]
    typedefs := [⟨"Tally", ⟨0⟩, .base .i32, .empty⟩]
    constants := [⟨"base", ⟨1⟩, .base .i32, .int 5, .empty⟩, ⟨"first", ⟨0⟩, .typedef ⟨0⟩, .constant ⟨0⟩, .empty⟩,
      ⟨"tallies", ⟨0⟩, .list (.typedef ⟨0⟩), .list [.constant ⟨1⟩, .int 7], .empty⟩] }

/-- There is code for both files. -/
theorem exists_draft_tally :
    (∃ d, tallyProgram.draft ⟨0⟩ { noZap := true } = .ok d) ∧
      ∃ d, tallyProgram.draft ⟨1⟩ { noZap := true } = .ok d :=
  ⟨exists_draft_of_isOk (by decide +kernel), exists_draft_of_isOk (by decide +kernel)⟩

theorem resolved_value_fits_tally :
    (∃ source, tallyProgram.generate ⟨0⟩ { noZap := true } = .ok source) ∧
      ReflTransGen tallyProgram.Inside (.typedef ⟨0⟩, .constant ⟨1⟩)
        (.list (.typedef ⟨0⟩), .list [.constant ⟨1⟩, .int 7]) ∧
      tallyProgram.Follows ⟨1⟩ [⟨1⟩, ⟨0⟩] ⟨"base", ⟨1⟩, .base .i32, .int 5, .empty⟩ ∧
      tallyProgram.Accepts (.typedef ⟨0⟩) (.int 5) := by
  obtain ⟨⟨d, hd⟩, d', hd'⟩ := exists_draft_tally
  have hsource := generate_eq_ok.mpr ⟨d, hd, rfl⟩
  have hsource' := generate_eq_ok.mpr ⟨d', hd', rfl⟩
  have hplace : ReflTransGen tallyProgram.Inside (.typedef ⟨0⟩, .constant ⟨1⟩)
      (.list (.typedef ⟨0⟩), .list [.constant ⟨1⟩, .int 7]) := .single (.item List.mem_cons_self)
  have hrenders : tallyProgram.Renders ⟨0⟩ (.list (.typedef ⟨0⟩)) (.list [.constant ⟨1⟩, .int 7]) :=
    @Renders.constant tallyProgram ⟨0⟩ ⟨2⟩ _ rfl rfl
  have hfollows : tallyProgram.Follows ⟨1⟩ [⟨1⟩, ⟨0⟩] ⟨"base", ⟨1⟩, .base .i32, .int 5, .empty⟩ :=
    .next rfl rfl (.stop rfl rfl)
  obtain ⟨rs, last, hlast, hfits, -⟩ := resolved_value_fits hsource hrenders hplace
  obtain ⟨rfl, rfl⟩ := hfollows.unique hlast
  exact ⟨⟨_, hsource⟩, hplace, hfollows, hfits (.inr ⟨_, _, hsource'⟩) rfl⟩

/-- A program of two files. The first one has an integer that is a text, and a small integer that is a constant of
the second one, for which there is no code, since it is too large. -/
def looseProgram : Program :=
  { Program.empty with
    files := [⟨"a.thrift", "ex/a", "a"⟩, ⟨"b.thrift", "ex/b", "b"⟩]
    constants := [⟨"greeting", ⟨0⟩, .base .string, .string "hi", .empty⟩,
      ⟨"count", ⟨0⟩, .base .i32, .constant ⟨0⟩, .empty⟩, ⟨"tiny", ⟨1⟩, .base .i8, .int 300, .empty⟩,
      ⟨"copy", ⟨0⟩, .base .i8, .constant ⟨2⟩, .empty⟩] }

/-- There is code for the first file, but neither value at the end of a reference is one for the place of the
reference: whatever the run, its literal there is refused. -/
theorem resolved_value_unchecked :
    looseProgram.check = .ok () ∧ (∃ source, looseProgram.generate ⟨0⟩ { noZap := true } = .ok source) ∧
      (looseProgram.Renders ⟨0⟩ (.base .i32) (.constant ⟨0⟩) ∧ ∃ last, looseProgram.Follows ⟨0⟩ [⟨0⟩] last ∧
        ∀ env : Env, env.program = looseProgram → ∀ site run, ∃ fault,
          env.literal site (.base .i32) last.value run = .error (.badValue site fault)) ∧
      looseProgram.Renders ⟨0⟩ (.base .i8) (.constant ⟨2⟩) ∧ ∃ last, looseProgram.Follows ⟨2⟩ [⟨2⟩] last ∧
        ∀ env : Env, env.program = looseProgram → ∀ site run, ∃ fault,
          env.literal site (.base .i8) last.value run = .error (.badValue site fault) := by
  have hsource : ∃ source, looseProgram.generate ⟨0⟩ { noZap := true } = .ok source := exists_source (by decide +kernel)
  have hlayers (env : Env) (b : Base) : env.layers (.base b) = .ok ([], .base b) := Env.layers_eq (.stop rfl)
  refine ⟨rfl, hsource, ⟨@Renders.constant looseProgram ⟨0⟩ ⟨1⟩ _ rfl rfl, _, .stop rfl rfl, ?_⟩,
    @Renders.constant looseProgram ⟨0⟩ ⟨3⟩ _ rfl rfl, _, .stop rfl rfl, ?_⟩
  · intro env _ site run
    rw [Env.literal, hlayers, Env.lift_ok_bind]
    exact ⟨_, rfl⟩
  · intro env _ site run
    rw [Env.literal, hlayers, Env.lift_ok_bind]
    exact ⟨_, rfl⟩

end Program

end GoSchema
