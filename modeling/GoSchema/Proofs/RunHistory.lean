import GoSchema.Proofs.WholeRun
import Mathlib.Data.List.Count
import Mathlib.Data.List.Perm.Basic

/-!
# The history of a run

A run as a sequence of single steps, each with the event that it is: a path is used, a known helper is asked for
again, a new helper is asked for and begun, or a helper is finished. Between the moment when a helper is begun and
the moment when it is finished other helpers may be begun and finished, so a point of the run may lie inside any
number of helpers that are not finished yet.

What a part of a run does (`Env.Grows`) is such a history (`Env.Grows.exists_trace`), in which every helper that is
begun is built by what `Env.helperSource` has for it, and then finished. So the helper of a symbol is built for the first
request for it (`Env.Grows.builds_first`), whatever is asked for under the symbol later.

## What is proved

* `Env.Trace.begun_new` and `Env.Trace.known_iff`: no helper is begun twice, and what is known in the end was known
  at the beginning or was begun since.
* `Env.Grows.exists_trace` and `Env.Grows.builds_first`, as said above.
* `Env.Trace.requests` and `Env.Trace.helpers`: the requests and helpers that have accumulated can be read off the
  events.

The rules of `Env.Grows` nest the building of a helper; the history lays it out in time. Statements about all
points of a run are made with histories, and statements about what a run ends with can be made with either.
-/

namespace GoSchema

/-- What happens in a step of a run. -/
inductive Event where
  /-- An import path is used. -/
  | used (path : String)
  /-- A known helper is asked for again. -/
  | repeated (q : Request)
  /-- A new helper is asked for, and begun. -/
  | begun (q : Request)
  /-- A helper is finished. -/
  | finished (h : Helper)
  deriving DecidableEq

namespace Event

/-- The request that is made. -/
def request? : Event → Option Request
  | .repeated q | .begun q => some q
  | .used _ | .finished _ => none

/-- The request whose helper is begun. -/
def begun? : Event → Option Request
  | .begun q => some q
  | .used _ | .repeated _ | .finished _ => none

/-- The helper that is finished. -/
def finished? : Event → Option Helper
  | .finished h => some h
  | .used _ | .repeated _ | .begun _ => none

end Event

/-- The symbols of the helpers that were begun, in order. -/
def begunSymbols (events : List Event) : List String := (events.filterMap Event.begun?).map Request.symbol

/-- The symbols of the helpers that were finished, in order. -/
def finishedSymbols (events : List Event) : List String := (events.filterMap Event.finished?).map Helper.symbol

theorem begunSymbols_append (es es' : List Event) :
    begunSymbols (es ++ es') = begunSymbols es ++ begunSymbols es' := by
  simp [begunSymbols]

theorem finishedSymbols_append (es es' : List Event) :
    finishedSymbols (es ++ es') = finishedSymbols es ++ finishedSymbols es' := by
  simp [finishedSymbols]

/-- The first request for a symbol. -/
def Run.first? (r : Run) (symbol : String) : Option Request := r.requests.find? (·.symbol == symbol)

theorem Run.mem_of_first? {r : Run} {symbol : String} {q : Request} (h : r.first? symbol = some q) :
    q ∈ r.requests ∧ q.symbol = symbol :=
  ⟨List.mem_of_find?_eq_some h, by simpa using List.find?_some h⟩

namespace Env

/-- One step of a run. -/
inductive Step (env : Env) : Run → Event → Run → Prop where
  | use {r : Run} {path : String} : env.MayUse path → Step env r (.used path) (r.usePath path)
  | again {r : Run} {q : Request} {symbols : Symbols} :
      env.Asks r q symbols → r.Known q.symbol → Step env r (.repeated q) (r.noted symbols q)
  | begin {r : Run} {q : Request} {symbols : Symbols} {names : Name.Namespace} :
      env.Asks r q symbols → ¬ r.Known q.symbol → r.names.reserve q.symbol = .ok names →
      Step env r (.begun q) (r.begun symbols q names)
  | finish {r : Run} {h : Helper} : r.Known h.symbol → Step env r (.finished h) (r.finished h)

/-- The steps from one point of a run to a later one, with their events. -/
inductive Trace (env : Env) : Run → List Event → Run → Prop where
  | nil (r : Run) : Trace env r [] r
  | cons {r r₁ r₂ : Run} {e : Event} {es : List Event} :
      env.Step r e r₁ → Trace env r₁ es r₂ → Trace env r (e :: es) r₂

variable {env : Env} {r r₁ r₂ r' : Run} {e : Event} {es es' : List Event} {q : Request} {symbol : String}

theorem Step.trace (h : env.Step r e r') : env.Trace r [e] r' := .cons h (.nil r')

namespace Trace

theorem append (h : env.Trace r es r₁) (h' : env.Trace r₁ es' r₂) : env.Trace r (es ++ es') r₂ := by
  induction h with
  | nil => exact h'
  | cons step _ ih => exact .cons step (ih h')

end Trace

/-! ### What a history adds -/

theorem Step.known (h : env.Step r e r') (hk : r.Known symbol) : r'.Known symbol := by
  cases h with
  | use _ => simpa [Run.Known] using hk
  | again _ _ => exact Run.known_noted.mpr (.inl hk)
  | begin _ _ _ => exact Run.known_begun.mpr (.inl hk)
  | finish _ => exact hk

theorem Step.requests (h : env.Step r e r') : r'.requests = r.requests ++ e.request?.toList := by
  cases h <;> simp [Event.request?, Run.noted, Run.begun, Run.finished]

theorem Step.helpers (h : env.Step r e r') : r'.helpers = r.helpers ++ e.finished?.toList := by
  cases h <;> simp [Event.finished?, Run.noted, Run.begun, Run.finished]

namespace Trace

theorem known (h : env.Trace r es r') (hk : r.Known symbol) : r'.Known symbol := by
  induction h with
  | nil => exact hk
  | cons step _ ih => exact ih (step.known hk)

theorem requests (h : env.Trace r es r') : r'.requests = r.requests ++ es.filterMap Event.request? := by
  induction h with
  | nil => simp
  | @cons r r₁ r₂ e es step _ ih =>
    rw [ih, step.requests, List.append_assoc]
    cases e <;> rfl

theorem helpers (h : env.Trace r es r') : r'.helpers = r.helpers ++ es.filterMap Event.finished? := by
  induction h with
  | nil => simp
  | @cons r r₁ r₂ e es step _ ih =>
    rw [ih, step.helpers, List.append_assoc]
    cases e <;> rfl

/-- A helper is begun when it is new, so no helper is begun twice. -/
theorem begun_new (h : env.Trace r es r') :
    (begunSymbols es).Nodup ∧ ∀ symbol ∈ begunSymbols es, ¬ r.Known symbol := by
  induction h with
  | nil => simp [begunSymbols]
  | @cons r r₁ r₂ e es step _ ih =>
    obtain ⟨hnodup, hnew⟩ := ih
    have hlater : ∀ symbol ∈ begunSymbols es, ¬ r.Known symbol := fun symbol hmem hk =>
      hnew symbol hmem (step.known hk)
    cases step with
    | use _ | again _ _ | finish _ => exact ⟨hnodup, hlater⟩
    | @begin q symbols names hasks hfirst hnames =>
      have hknown : (r.begun symbols q names).Known q.symbol := Run.known_begun.mpr (.inr rfl)
      refine ⟨List.nodup_cons.mpr ⟨fun hmem => hnew _ hmem hknown, hnodup⟩, ?_⟩
      exact List.forall_mem_cons.mpr ⟨hfirst, hlater⟩

/-- The first request for a new symbol begins the helper. -/
theorem find?_request (h : env.Trace r es r') (hnew : ¬ r.Known symbol) :
    (es.filterMap Event.request?).find? (·.symbol == symbol) =
      (es.filterMap Event.begun?).find? (·.symbol == symbol) := by
  induction h with
  | nil => rfl
  | @cons r r₁ r₂ e es step _ ih =>
    cases step with
    | use _ => exact ih (by simpa [Run.Known] using hnew)
    | finish _ => exact ih hnew
    | @again q symbols _ hknown =>
      have hother : q.symbol ≠ symbol := fun heq => hnew (heq ▸ hknown)
      have hlater := ih (by simpa [Run.known_noted, hother] using hnew)
      simpa [Event.request?, Event.begun?, hother] using hlater
    | @begin q symbols names _ _ _ =>
      by_cases hsymbol : q.symbol = symbol
      · simp [Event.request?, Event.begun?, hsymbol]
      · have hlater := ih (by simpa [Run.known_begun, hsymbol] using hnew)
        simpa [Event.request?, Event.begun?, hsymbol] using hlater

/-- What is known in the end was known at the beginning, or was begun since. -/
theorem known_iff (h : env.Trace r es r') : r'.Known symbol ↔ r.Known symbol ∨ symbol ∈ begunSymbols es := by
  induction h with
  | nil => simp [begunSymbols]
  | @cons r r₁ r₂ e es step _ ih =>
    rw [ih]
    cases step with
    | use _ => simp [Run.Known, begunSymbols, Event.begun?]
    | @again q symbols _ hknown =>
      rw [Run.known_noted]
      constructor
      · rintro ((hk | rfl) | hk)
        · exact .inl hk
        · exact .inl hknown
        · exact .inr hk
      · rintro (hk | hk)
        · exact .inl (.inl hk)
        · exact .inr hk
    | @begin q symbols names _ _ _ =>
      rw [Run.known_begun, or_assoc]
      simp [begunSymbols, Event.begun?, eq_comm]
    | finish _ => rfl

end Trace

/-! ### Helpers are built -/

/-- In the history from `r` to `r'` the helper for `q` is begun, then its builder runs and gives its code, and
then it is finished with this code. -/
def Builds (env : Env) (r : Run) (events : List Event) (r' : Run) (q : Request) : Prop :=
  ∃ before inner after code rs re,
    events = before ++ .begun q :: (inner ++ .finished ⟨q.symbol, code⟩ :: after) ∧
    env.Trace r (before ++ [.begun q]) rs ∧
    env.helperSource q.role q.type q.symbol rs = .ok (code, re) ∧
    env.Trace rs inner re ∧
    env.Trace re (.finished ⟨q.symbol, code⟩ :: after) r'

/-- A helper that was built is finished, with code that its builder answers. -/
theorem Builds.finished (h : env.Builds r es r' q) :
    ∃ code, ⟨q.symbol, code⟩ ∈ es.filterMap Event.finished? ∧
      ∃ rs re, env.helperSource q.role q.type q.symbol rs = .ok (code, re) := by
  obtain ⟨before, inner, after, code, rs, re, rfl, -, hsource, -, -⟩ := h
  exact ⟨code, List.mem_filterMap.mpr ⟨.finished ⟨q.symbol, code⟩, by simp, rfl⟩, rs, re, hsource⟩

/-- What is built in a part of a history is built in the history. -/
theorem Builds.within (h : env.Builds r es r' q) {before after : List Event}
    (hbefore : env.Trace r₁ before r) (hafter : env.Trace r' after r₂) :
    env.Builds r₁ (before ++ es ++ after) r₂ q := by
  obtain ⟨pre, inner, post, code, rs, re, rfl, hpre, hsource, hinner, hpost⟩ := h
  refine ⟨before ++ pre, inner, post ++ after, code, rs, re, by simp, ?_, hsource, hinner, ?_⟩
  · rw [List.append_assoc]
    exact hbefore.append hpre
  · exact hpost.append hafter

/-- What a part of a run does is a history in which every helper that is begun is built and finished. -/
theorem Grows.exists_trace (h : env.Grows r r') :
    ∃ events, env.Trace r events r' ∧ (finishedSymbols events).Perm (begunSymbols events) ∧
      ∀ q ∈ events.filterMap Event.begun?, env.Builds r events r' q := by
  induction h with
  | refl r => exact ⟨[], .nil r, .nil, by simp⟩
  | use hpath => exact ⟨_, (Step.use hpath).trace, .nil, by simp [Event.begun?]⟩
  | again hasks hknown => exact ⟨_, (Step.again hasks hknown).trace, .nil, by simp [Event.begun?]⟩
  | trans _ _ ih₁ ih₂ =>
    obtain ⟨es₁, htrace₁, hperm₁, hbuilds₁⟩ := ih₁
    obtain ⟨es₂, htrace₂, hperm₂, hbuilds₂⟩ := ih₂
    refine ⟨es₁ ++ es₂, htrace₁.append htrace₂, ?_, fun q hq => ?_⟩
    · rw [finishedSymbols_append, begunSymbols_append]
      exact hperm₁.append hperm₂
    · rw [List.filterMap_append, List.mem_append] at hq
      rcases hq with hq | hq
      · exact (hbuilds₁ q hq).within (.nil _) htrace₂
      · simpa using (hbuilds₂ q hq).within htrace₁ (.nil _)
  | @build r r' q symbols names code hasks hnew hnames hsource hgrow ih =>
    obtain ⟨inner, htrace, hperm, hbuilds⟩ := ih
    have hbegin := (Step.begin hasks hnew hnames).trace
    have hknown : r'.Known q.symbol := hgrow.known (Run.known_begun.mpr (.inr rfl))
    have hfinish : env.Trace r' [.finished ⟨q.symbol, code⟩] (r'.finished ⟨q.symbol, code⟩) :=
      (Step.finish hknown).trace
    refine ⟨[.begun q] ++ inner ++ [.finished ⟨q.symbol, code⟩], (hbegin.append htrace).append hfinish, ?_, ?_⟩
    · -- The helper itself is begun first and finished last.
      have hbegun : begunSymbols ([.begun q] ++ inner ++ [.finished ⟨q.symbol, code⟩]) =
          q.symbol :: begunSymbols inner := by
        rw [begunSymbols_append, begunSymbols_append]
        exact List.append_nil _
      have hfinished : finishedSymbols ([.begun q] ++ inner ++ [.finished ⟨q.symbol, code⟩]) =
          finishedSymbols inner ++ [q.symbol] := by
        rw [finishedSymbols_append, finishedSymbols_append]
        rfl
      rw [hbegun, hfinished]
      exact (List.perm_append_singleton _ _).trans (hperm.cons q.symbol)
    · intro q' hq'
      simp only [List.filterMap_append, List.mem_append] at hq'
      rcases hq' with (hq' | hq') | hq'
      · obtain rfl : q' = q := by simpa [Event.begun?] using hq'
        exact ⟨[], inner, [], code, _, r', by simp, hbegin, hsource, htrace, hfinish⟩
      · exact (hbuilds q' hq').within hbegin hfinish
      · simp [Event.begun?] at hq'

/-- In a whole run, the first request for a symbol is the one that the helper is built for. -/
theorem Grows.builds_first {names : Name.Namespace} (h : env.Grows (Run.start names) r)
    (hfirst : r.first? symbol = some q) :
    ∃ events, env.Trace (Run.start names) events r ∧ env.Builds (Run.start names) events r q := by
  obtain ⟨events, htrace, -, hbuilds⟩ := h.exists_trace
  have hnew : ¬ (Run.start names).Known symbol := by simp [Run.Known, Run.start]
  have hrequests : r.requests = events.filterMap Event.request? := htrace.requests
  rw [Run.first?, hrequests, htrace.find?_request hnew] at hfirst
  exact ⟨events, htrace, hbuilds q (List.mem_of_find?_eq_some hfirst)⟩

end Env

end GoSchema
