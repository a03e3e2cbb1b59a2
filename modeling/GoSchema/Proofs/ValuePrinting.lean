import GoSchema.Proofs.TypePrinting

/-!
# Paths in the code for values

Whatever a literal uses is in its text. A literal is put together from inside out: conversions and pointers take
the text of a value over into a larger one, so what was open in it stays open.

## What is proved

* `Env.convert_passes` and `Env.pointerTo_passes`: what an expression shows is shown by what it is made into.
* `Env.literal_prints` and the statements about lists of literals: by induction on the value, one case for each
  form.

Nothing is lost in a literal. Where a literal itself is lost, as the default of a field that is always there, is
seen in the module about records.
-/

namespace GoSchema

open Go

namespace Env

variable {env : Env}

/-! ### Pointers and conversions -/

theorem ptrHelper_prints (ty : Ty) : env.Prints (env.ptrHelper ty) fun _ _ => False :=
  request_prints fun name => (typeText_prints ty).bind fun type _ => .pure fun _ h =>
    .of_signature s!"{name}(v {type}) *{type}" (by simp) (h.append_append_right rfl)

theorem pointerTo_passes (ty : Ty) (expr : String) :
    env.Passes (env.InText expr) (env.pointerTo ty expr) env.InText := by
  cases ty with
  | enum r => exact .pure fun _ h => h.append_left
  | typedef r => exact .given fun byReference _ => .ite (fun _ => .throw) fun _ => .pure fun _ h => h.append_left
  | base b =>
    cases b with
    | binary => exact .throw
    | _ => exact (ptrHelper_prints _).silent fun _ _ => .pure fun _ h => (h.append_append_right rfl).append_left
  | list _ | set _ _ | map _ _ | struct _ => exact .throw

theorem held_passes (ty : Ty) (required : Bool) (literal : String) :
    env.Passes (env.InText literal) (env.held ty required literal) env.InText := by
  refine .given fun holding _ => ?_
  cases holding with
  | pointer => exact pointerTo_passes ty literal
  | value | nilable => exact .pure fun _ h => h

theorem convert_passes (layers : List (Ref .typedef)) (expr : String) :
    env.Passes (env.InText expr) (env.convert layers expr) env.InText := by
  induction layers with
  | nil => exact .pure fun _ h => h
  | cons layer layers ih =>
    rw [convert]
    refine ih.bind fun inner _ => (typeText_prints _).next fun type _ => .pure ?_
    rintro path (h | h)
    · exact (h.append_append_right rfl).append_left
    · exact (h.append_right rfl).append_left.append_left.append_left

theorem convert_prints (layers : List (Ref .typedef)) (expr : String) :
    env.Prints (env.convert layers expr) env.InText :=
  (convert_passes layers expr).mono (fun _ h => h.elim) fun _ _ h => h

theorem doubleLiteral_prints (d : Double) : env.Prints (env.doubleLiteral d) env.InText := by
  refine .ite (fun _ => ?_) fun _ => .ite (fun _ => .nothing) fun _ => ?_
  · refine (package_prints _).bind fun math _ => .pure ?_
    rintro path rfl
    exact .self_append rfl
  · refine (package_prints _).bind fun math _ => .pure ?_
    rintro path rfl
    exact .append_left (.append_left (.self_append rfl))

theorem intAt_prints (site : Site) (root : Ty) (n : Int64) : env.Prints (env.intAt site root n) env.InText := by
  unfold intAt
  split
  · exact .ite (fun _ => .nothing) fun _ => .ite (fun _ => .nothing) fun _ => .throw
  · exact .nothing
  · split
    · exact .lift
    · exact .throw
  · refine .given fun ref href => (refer_prints (aliased_of_enumRef href)).bind fun type _ => ?_
    exact .given fun raw _ => .pure fun _ h => h.append_left.append_left.append_left
  · exact .throw

/-! ### Literals -/

/-- The alias of the path qualifies something in one of the texts. -/
def InTexts (env : Env) (texts : List String) (path : String) : Prop := ∃ t ∈ texts, env.InText t path

theorem inText_composite {type path : String} {elements : List String}
    (h : env.InText type path ∨ env.InTexts elements path) : env.InText (composite type elements) path := by
  rcases h with h | ⟨t, ht, h⟩
  · exact h.append_left
  · exact (h.intercalate ht).append_braced type

theorem inText_mapEntry {keyed : Bool} {k v path : String} (h : env.InText k path ∨ env.InText v path) :
    env.InText (mapEntry keyed k v) path := by
  cases keyed
  · rcases h with h | h
    · exact (h.append_right rfl).append_left.append_left.braced
    · exact (h.append_append_right rfl).braced
  · rcases h with h | h
    · exact h.append_left.append_left
    · exact h.append_append_right rfl

theorem inTexts_cons {t path : String} {ts : List String} (h : env.InText t path ∨ env.InTexts ts path) :
    env.InTexts (t :: ts) path := by
  rcases h with h | ⟨u, hu, h⟩
  · exact ⟨t, List.mem_cons_self, h⟩
  · exact ⟨u, List.mem_cons_of_mem _ hu, h⟩

mutual

theorem literal_prints (site : Site) (ty : Ty) : ∀ v : Value, env.Prints (env.literal site ty v) env.InText
  | .constant r => by
    rw [literal]
    exact .given fun ref href => refer_prints (aliased_of_constantRef href)
  | .bool b => by
    rw [literal]
    refine .given fun ⟨layers, root⟩ _ => ?_
    dsimp only
    split
    · exact convert_prints _ _
    · exact .throw
  | .int n => by
    rw [literal]
    refine .given fun ⟨layers, root⟩ _ => ?_
    exact (intAt_prints site root n).bind fun _ _ => convert_passes _ _
  | .double d => by
    rw [literal]
    refine .given fun ⟨layers, root⟩ _ => ?_
    dsimp only
    split
    · exact (doubleLiteral_prints d).bind fun _ _ => convert_passes _ _
    · exact .throw
  | .string s => by
    rw [literal]
    exact .given fun ⟨layers, root⟩ _ => .given fun text _ => convert_prints _ _
  | .enumItem e i => by
    rw [literal]
    refine .given fun ⟨layers, root⟩ _ => ?_
    dsimp only
    split
    · refine .ite (fun _ => .given fun ref href => ?_) fun _ => .throw
      exact (refer_prints (aliased_of_enumItemRef href)).bind fun _ _ => convert_passes _ _
    · exact .throw
  | .list items => by
    rw [literal]
    refine .given fun ⟨layers, root⟩ _ => ?_
    cases root with
    | list element =>
      refine (typeText_prints _).bind fun type _ => ?_
      refine (itemLiterals_prints site element items).next fun members _ => ?_
      exact (convert_passes _ _).mono (fun _ => inText_composite) fun _ _ h => h
    | set element annotations =>
      refine (typeText_prints _).bind fun type _ => ?_
      refine (itemLiterals_prints site element items).next fun members _ => ?_
      refine .given fun keyed _ => (convert_passes _ _).mono (fun path h => inText_composite ?_) fun _ _ h => h
      refine h.imp_right fun ⟨t, ht, h⟩ => ?_
      cases keyed
      · exact ⟨t, ht, h⟩
      · exact ⟨keyedMember t, List.mem_map_of_mem ht, h.append_left⟩
    | base _ | map _ _ | enum _ | struct _ | typedef _ => exact .throw
  | .map entries => by
    rw [literal]
    refine .given fun ⟨layers, root⟩ _ => ?_
    cases root with
    | map key value =>
      refine (typeText_prints _).bind fun type _ => .given fun keyed _ => ?_
      refine (entryLiterals_prints site key value keyed entries).next fun members _ => ?_
      exact (convert_passes _ _).mono (fun _ => inText_composite) fun _ _ h => h
    | struct r =>
      refine .given fun s _ => .given fun ref href => ?_
      refine (refer_prints (aliased_of_structRef href)).bind fun ident _ => ?_
      refine (fieldLiterals_prints site s entries).next fun members _ => ?_
      refine (convert_passes _ _).mono (fun path h => inText_composite ?_) fun _ _ h => h
      exact h.imp_left fun h => h.append_right rfl
    | base _ | list _ | set _ _ | enum _ | typedef _ => exact .throw

theorem itemLiterals_prints (site : Site) (element : Ty) :
    ∀ vs : List Value, env.Prints (env.itemLiterals site element vs) env.InTexts
  | [] => by rw [itemLiterals]; exact .nothing
  | v :: vs => by
    rw [itemLiterals]
    exact (literal_prints site element v).bind fun _ _ =>
      (itemLiterals_prints site element vs).next fun _ _ => .pure fun _ => inTexts_cons

theorem entryLiterals_prints (site : Site) (key value : Ty) (keyed : Bool) :
    ∀ es : List (Value × Value), env.Prints (env.entryLiterals site key value keyed es) env.InTexts
  | [] => by rw [entryLiterals]; exact .nothing
  | (k, v) :: es => by
    rw [entryLiterals]
    refine (literal_prints site key k).bind fun _ _ => (literal_prints site value v).next fun _ _ => ?_
    refine (entryLiterals_prints site key value keyed es).next fun _ _ => .pure fun _ h => ?_
    exact inTexts_cons (h.imp_left inText_mapEntry)

theorem fieldLiterals_prints (site : Site) (s : Struct) :
    ∀ es : List (Value × Value), env.Prints (env.fieldLiterals site s es) env.InTexts
  | [] => by rw [fieldLiterals]; exact .nothing
  | (k, v) :: es => by
    rw [fieldLiterals]
    refine .given fun slot _ => (literal_prints site slot.type v).bind fun _ _ => ?_
    refine (held_passes _ _ _).bind fun _ _ => (fieldLiterals_prints site s es).next fun _ _ => ?_
    exact .pure fun _ h => inTexts_cons (h.imp_left fun h => h.append_append_right rfl)

end

theorem fieldValue_prints (site : Site) (ty : Ty) (required : Bool) (value : Value) :
    env.Prints (env.fieldValue site ty required value) env.InText :=
  (literal_prints site ty value).bind fun _ _ => held_passes ty required _

end Env

end GoSchema
