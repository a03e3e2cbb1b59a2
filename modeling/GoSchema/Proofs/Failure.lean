import GoSchema.Proofs.WholeRun

/-!
# How generation fails

For a sound program, generation fails because the schema is refused, because there is no such file, or because
the symbol of a helper is taken. The last case is rare: the symbol of a helper begins with an underscore and ends
with its role, and among the names of a package only two kinds can look like that, the name of another
package and an item behind an enum whose name has no letter and no number.

The generator has nine kinds of internal errors (`InternalError`), for states that it does not expect: a helper or
a claim that is refused, a helper of lists, sets or maps that is asked for a type of another shape, a comparator or
a log helper that is asked for a type that is no container, a pointer to a value that is never held by pointer, a
typedef that leads to no type, an item that its enum does not have, and a function without declared names. The
branches for them are all there in the definitions. The refusal of a helper whose symbol is taken is the only one
that is ever reached.

## What is proved

* `Program.IsHelperSymbol.ne_goName` and `Program.IsHelperSymbol.isBareItem_of_mem`: the form of a symbol tells it
  from the names of declarations, up to the items above.
* `Program.generate_error_cases`: every error of generation is a refusal, or says that there is no such file, or is
  the refusal of a helper whose symbol is one of these names. In particular no other internal error comes up, and
  no reference points to nothing.

That an emitter does not reach its branches is not proved here but with the emitter, in the modules about emission,
by induction on the types and values that it goes through. When a schema is refused is not said either: each kind
of refusal has a module of its own. The bound on the number of arguments is for the last part only, which says that
the numbers of arguments stay in range.
-/

namespace GoSchema

open Name

namespace Program

/-- The symbol of a helper that the code for this program may ask for. -/
def IsHelperSymbol (p : Program) (symbol : String) : Prop :=
  ∃ (role : Role) (ty : Ty) (s : Symbols) (m : String) (s' : Symbols),
    p.TypeInRange ty ∧ Symbols.mangle p ty s = (some m, s') ∧
      symbol = "_" ++ m ++ "_" ++ role.suffix

/-- The identifier of an item that stands behind the bare name of an enum of the file, where that name
has no letter and no number. -/
def IsBareItem (p : Program) (file : Ref .file) (ident : String) : Prop :=
  ∃ e ∈ p.enumsOf file, e.annotations.get? nameKey = none ∧
    (∀ c ∈ e.name.toList, Text.isAlphanumeric c = false) ∧
    ∃ item ∈ e.items, item.annotations.get? nameKey = none ∧ ident = e.name ++ exported item.name

end Program

/-! ### The form of a helper symbol -/

/-- The last four characters of a text, from the end. -/
def ending (s : String) : List Char := s.toList.reverse.take 4

theorem ending_append {a b : String} (h : 4 ≤ b.toList.length) : ending (a ++ b) = ending b := by
  unfold ending
  rw [String.toList_append, List.reverse_append, List.take_append_of_le_length]
  simpa using h

/-- An identifier begins with something else than an underscore, or it is a name without letters and
numbers that was left as it is. -/
theorem goName_cases {a : Annotations} (ha : OverrideValid a) (name : String) :
    (∃ c rest, (goName name a).toList = c :: rest ∧ c ≠ '_') ∨
      a.get? nameKey = none ∧ (∀ c ∈ name.toList, Text.isAlphanumeric c = false) ∧
        goName name a = name := by
  unfold goName
  cases hget : a.get? nameKey with
  | some ident =>
    have hident := (ha ident hget).1
    have hhead := @head?_isExported_ne ident hident '_' (by decide)
    rw [Option.getD_some]
    cases hlist : ident.toList with
    | nil => simp [isExported, hlist] at hident
    | cons c rest => exact .inl ⟨c, rest, rfl, by simpa [hlist] using hhead⟩
  | none =>
    rw [Option.getD_none]
    by_cases hname : ∃ c ∈ name.toList, Text.isAlphanumeric c = true
    · obtain ⟨d, hd, halnum⟩ := hname
      obtain ⟨hunderscore, hne⟩ := underscore_notMem_exported hd halnum
      obtain ⟨c, rest, hlist⟩ := List.exists_cons_of_ne_nil hne
      exact .inl ⟨c, rest, hlist, fun hc => hunderscore (by simp [hlist, hc])⟩
    · push Not at hname
      have hbare : ∀ c ∈ name.toList, Text.isAlphanumeric c = false := fun c hc =>
        Bool.of_not_eq_true (hname c hc)
      exact .inr ⟨rfl, hbare, exported_eq_self hbare⟩

theorem Env.Asks.isHelperSymbol {env : Env} {r : Run} {q : Request} {symbols : Symbols}
    (h : env.Asks r q symbols) : env.program.IsHelperSymbol q.symbol := by
  obtain ⟨m, hm, hsymbol⟩ := h.symbol
  exact ⟨q.role, q.type, r.symbols, m, symbols, h.permitted.1, hm, hsymbol⟩

namespace Program.IsHelperSymbol

variable {p : Program} {symbol : String}

theorem head?_eq (h : p.IsHelperSymbol symbol) : symbol.toList.head? = some '_' := by
  obtain ⟨role, ty, s, m, s', _, _, rfl⟩ := h
  simp

theorem ending_eq (h : p.IsHelperSymbol symbol) :
    ∃ role : Role, ending symbol = ending ("_" ++ role.suffix) := by
  obtain ⟨role, ty, s, m, s', _, _, rfl⟩ := h
  have hsplit : "_" ++ m ++ "_" ++ role.suffix = ("_" ++ m) ++ ("_" ++ role.suffix) :=
    String.append_assoc
  rw [hsplit]
  exact ⟨role, ending_append (by cases role <;> decide)⟩

/-- Its last character is a letter. -/
theorem exists_isAlphanumeric (h : p.IsHelperSymbol symbol) :
    ∃ c ∈ symbol.toList, Text.isAlphanumeric c = true := by
  obtain ⟨role, ty, s, m, s', _, _, rfl⟩ := h
  have hsuffix : role.suffix.toList.any Text.isAlphanumeric = true := by cases role <;> decide +kernel
  obtain ⟨c, hc, halnum⟩ := List.any_eq_true.mp hsuffix
  exact ⟨c, by simp [hc], halnum⟩

/-- No name that is put together with one of these endings is the symbol of a helper. -/
theorem ne_append (h : p.IsHelperSymbol symbol) {last : String}
    (hlast : last ∈ ["_Values", "_Args", "_Result", "_Helper"]) (stem : String) : symbol ≠ stem ++ last := by
  rintro rfl
  obtain ⟨role, hending⟩ := h.ending_eq
  have hlength : ∀ last ∈ ["_Values", "_Args", "_Result", "_Helper"], 4 ≤ last.toList.length := by decide
  rw [ending_append (hlength last hlast)] at hending
  have hdiffers : ∀ last ∈ ["_Values", "_Args", "_Result", "_Helper"],
      ending last ≠ ending ("_" ++ role.suffix) := by
    cases role <;> decide +kernel
  exact hdiffers last hlast hending

/-- The identifier of a declaration is not the symbol of a helper. -/
theorem ne_goName (h : p.IsHelperSymbol symbol) {a : Annotations} (ha : OverrideValid a) (name : String) :
    symbol ≠ goName name a := by
  rintro rfl
  rcases goName_cases ha name with ⟨c, rest, hlist, hc⟩ | ⟨_, hbare, heq⟩
  · have hhead := h.head?_eq
    rw [hlist, List.head?_cons, Option.some.injEq] at hhead
    exact hc hhead
  · obtain ⟨c, hc, halnum⟩ := h.exists_isAlphanumeric
    rw [heq] at hc
    rw [hbare c hc] at halnum
    cases halnum

theorem notMem_ambientNames (h : p.IsHelperSymbol symbol) : symbol ∉ ambientNames := by
  have hheads : ∀ name ∈ ambientNames, name.toList.head? ≠ some '_' := by decide +kernel
  exact fun hmem => hheads symbol hmem h.head?_eq

theorem not_isReserved (h : p.IsHelperSymbol symbol) : ¬ isReserved symbol = true := by
  have hheads : ∀ name ∈ reservedNames, name.toList.head? ≠ some '_' := by decide +kernel
  exact fun hmem => hheads symbol (List.contains_iff_mem.mp hmem) h.head?_eq

theorem isBareItem_of_mem_enum (h : p.IsHelperSymbol symbol) {file : Ref .file} {e : Enum}
    (he : e ∈ p.enumsOf file) (hvalid : OverrideValid e.annotations)
    (hitems : ∀ item ∈ e.items, OverrideValid item.annotations) (hmem : symbol ∈ e.declaredNames) :
    p.IsBareItem file symbol := by
  simp only [Enum.declaredNames, List.mem_cons, List.mem_map] at hmem
  rcases hmem with hsym | hsym | ⟨item, hitem, hsym⟩
  · exact absurd hsym (h.ne_goName hvalid e.name)
  · exact absurd hsym (h.ne_append (by simp) _)
  unfold itemName at hsym
  cases hitemName : item.annotations.get? nameKey with
  | some ident =>
    rw [hitemName, Option.getD_some] at hsym
    exact absurd h.head?_eq (hsym ▸ head?_isExported_ne (hitems item hitem ident hitemName).1 (by decide))
  | none =>
    rw [hitemName, Option.getD_none] at hsym
    rcases goName_cases hvalid e.name with ⟨c, rest, hlist, hc⟩ | ⟨hget, hbare, heq⟩
    · have hhead := h.head?_eq
      rw [← hsym, String.toList_append, hlist, List.cons_append, List.head?_cons,
        Option.some.injEq] at hhead
      exact absurd hhead hc
    · exact ⟨e, he, hget, hbare, item, hitem, hitemName, by rw [← hsym, heq]⟩

/-- A declared name that is the symbol of a helper is an item behind a bare enum. -/
theorem isBareItem_of_mem (h : p.IsHelperSymbol symbol) {file : Ref .file} (hvalid : p.OverridesValid file)
    (hmem : symbol ∈ p.declaredNames file) : p.IsBareItem file symbol := by
  simp only [declaredNames, List.mem_append, List.mem_map, List.mem_flatMap] at hmem
  rcases hmem with (((⟨c, hc, hsym⟩ | ⟨e, he, hmem⟩) | ⟨t, ht, hsym⟩) | ⟨s, hs, hsym⟩) | ⟨s, hs, hmem⟩
  · exact absurd hsym.symm (h.ne_goName (hvalid.constants c hc) c.name)
  · exact h.isBareItem_of_mem_enum he (hvalid.enums e he).1 (hvalid.enums e he).2 hmem
  · exact absurd hsym.symm (h.ne_goName (hvalid.typedefs t ht) t.name)
  · exact absurd hsym.symm (h.ne_goName (hvalid.structs s hs) s.name)
  · obtain ⟨f, _, hmem⟩ := List.mem_flatMap.mp hmem
    simp only [Function.declaredNames, FunctionNames.of, List.mem_cons, List.mem_append,
      Option.mem_toList, List.not_mem_nil, or_false] at hmem
    rcases hmem with hsym | hsym | hsym
    · exact absurd hsym (h.ne_append (by simp) _)
    · split_ifs at hsym
      exact absurd (Option.some.inj hsym).symm (h.ne_append (by simp) _)
    · exact absurd hsym (h.ne_append (by simp) _)

end Program.IsHelperSymbol

/-! ### Numbers of arguments -/

/-- The number of an argument is its position plus one, as long as that fits. -/
theorem toInt_argumentId {i : Nat} (h : i + 1 < 32768) : (argumentId i).toInt = i + 1 := by
  have hsum : argumentId i = Int16.ofNat (i + 1) := (Int16.ofNat_add i 1).symm
  rw [hsum, Int16.toInt_ofNat_of_lt h]
  push_cast
  rfl

/-! ### Failures -/

/-- For a sound program whose functions have fewer than 32768 arguments, generation gives a source or fails in one
of three ways: the schema is refused, there is no such file, or the symbol of a helper is the name of
another package or an item behind a bare enum. No reference points to nothing, no other state that the generator
does not expect is reached, and the numbers of arguments do not overflow. -/
theorem Program.generate_error_cases (p : Program) (hp : p.check = .ok ())
    (hargs : ∀ s ∈ p.services, ∀ f ∈ s.functions, f.arguments.length < 32768)
    (file : Ref .file) (o : Options) :
    (∀ e, p.generate file o = .error e →
      e.IsRefusal ∨
      (p.file? file = none ∧ ∃ fault, e = .badProgram fault) ∨
      ∃ symbol, e = .internal (.helperRefused symbol (.taken symbol)) ∧ p.IsHelperSymbol symbol ∧
        ((∃ self, p.file? file = some self ∧ symbol ∈ p.fileAliases file self) ∨
          p.IsBareItem file symbol)) ∧
    ∀ s ∈ p.services, ∀ f ∈ s.functions, ∀ i < f.arguments.length, (argumentId i).toInt = i + 1 := by
  refine ⟨fun e he => ?_, fun s hs f hf i hi => toInt_argumentId ?_⟩
  · have hdraft : p.draft file o = .error e := by
      rcases Except.bind_eq_error.mp he with h | ⟨_, _, h⟩
      · exact h
      · cases h
    cases hfile : p.file? file with
    | none =>
      rw [Program.draft, hp] at hdraft
      dsimp only at hdraft
      rw [hfile] at hdraft
      cases hdraft
      exact .inr (.inl ⟨rfl, _, rfl⟩)
    | some self =>
      rcases Program.draft_eq_error hp hfile hdraft with h | ⟨env, names, henv, hstarts, hstops⟩
      · exact .inl h
      obtain ⟨rfl, rfl, rfl, -⟩ := henv
      rcases hstops.cases (fun _ h => .inl h) with h | ⟨r, q, symbols, hasks, rfl, hmem⟩
      · exact .inl h
      have hsymbol := hasks.isHelperSymbol
      have hheld := hmem.resolve_right hsymbol.not_isReserved
      simp only [Run.start, hstarts.held, List.mem_append, List.mem_reverse] at hheld
      refine .inr (.inr ⟨q.symbol, rfl, hsymbol, ?_⟩)
      rcases hheld with hdeclared | halias | hambient
      · exact .inr (hsymbol.isBareItem_of_mem hstarts.valid hdeclared)
      · exact .inl ⟨_, rfl, halias⟩
      · exact absurd hambient hsymbol.notMem_ambientNames
  · have := hargs s hs f hf
    omega

/-- The symbol of a helper that is taken. -/
def GenError.taken? : GenError → Option String
  | .internal (.helperRefused symbol _) => some symbol
  | _ => none

theorem GenError.IsRefusal.taken?_eq_none {e : GenError} (h : e.IsRefusal) : e.taken? = none := by
  cases e with
  | conflict | badIdentifier | badDirective | badValue => rfl
  | badProgram | internal | dangling => exact h.elim

/-- A program in which another package is named like the helper that writes a list of booleans. -/
def packageClash : Program :=
  { Program.empty with
    files := [⟨"a.thrift", "ex/a", "a"⟩, ⟨"b.thrift", "ex/b", "_List_Bool_ValueList"⟩]
    structs := [⟨"S", ⟨0⟩, .struct, [⟨1, "flags", .list (.base .bool), true, none, .empty⟩], false, .empty⟩] }

theorem Program.generate_error_cases_packageClash :
    packageClash.check = .ok () ∧ ∃ e, packageClash.generate ⟨0⟩ {} = .error e ∧
      ∃ symbol, e = .internal (.helperRefused symbol (.taken symbol)) ∧ packageClash.IsHelperSymbol symbol ∧
        ((∃ self, packageClash.file? ⟨0⟩ = some self ∧ symbol ∈ packageClash.fileAliases ⟨0⟩ self) ∨
          packageClash.IsBareItem ⟨0⟩ symbol) := by
  have hcheck : packageClash.check = .ok () := rfl
  have hend : ((packageClash.generate ⟨0⟩ {}).mapError GenError.taken?) =
      .error (some "_List_Bool_ValueList") := by
    rw [Program.generate, Program.draft_eq_fromNames]
    decide +kernel
  obtain ⟨hfails, -⟩ :=
    Program.generate_error_cases packageClash hcheck (by simp [packageClash, Program.empty]) ⟨0⟩ {}
  cases herror : packageClash.generate ⟨0⟩ {} with
  | ok source =>
    rw [herror] at hend
    cases hend
  | error e =>
    rw [herror] at hend
    rcases hfails e herror with h | ⟨h, -⟩ | h
    · rw [Except.mapError, h.taken?_eq_none] at hend
      cases hend
    · cases h
    · exact ⟨hcheck, e, rfl, h⟩

end GoSchema
