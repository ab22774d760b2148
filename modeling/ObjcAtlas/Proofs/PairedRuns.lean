import Mathlib.Data.List.Forall2
import Mathlib.Data.Option.Basic
import ObjcAtlas.Proofs.JobRuns

/-! Two runs side by side: outcomes that agree up to a relation of their values, and jobs that end alike and keep a
relation of sessions. -/
namespace ObjcAtlas

/-- Both values are there and related, or both outcomes are the same error. -/
inductive Agree {ε α β : Type} (R : α → β → Prop) : Except ε α → Except ε β → Prop
  | ok {a : α} {b : β} (h : R a b) : Agree R (.ok a) (.ok b)
  | error (e : ε) : Agree R (.error e) (.error e)

namespace Agree
variable {ε α β γ δ : Type} {R : α → β → Prop} {S : γ → δ → Prop}

theorem refl {Q : α → α → Prop} (h : ∀ a, Q a a) (r : Except ε α) : Agree Q r r := by
  cases r with
  | ok a => exact .ok (h a)
  | error e => exact .error e

theorem eq {r r' : Except ε α} (h : Agree Eq r r') : r = r' := by
  cases h with
  | ok h => rw [h]
  | error e => rfl

theorem mono {Q : α → β → Prop} {r : Except ε α} {r' : Except ε β} (h : Agree R r r') (hQ : ∀ a b, R a b → Q a b) :
    Agree Q r r' := by
  cases h with
  | ok h => exact .ok (hQ _ _ h)
  | error e => exact .error e

theorem bind {r : Except ε α} {r' : Except ε β} {f : α → Except ε γ} {g : β → Except ε δ} (h : Agree R r r')
    (hf : ∀ a b, R a b → Agree S (f a) (g b)) : Agree S (r >>= f) (r' >>= g) := by
  cases h with
  | ok h => exact hf _ _ h
  | error e => exact .error e

end Agree

/-- Sessions that agree but for their files and their caches. -/
structure Session.Alike (T : FileTree → FileTree → Prop) (K : SharedCache → SharedCache → Prop) (s t : Session) :
    Prop where
  tree : T s.tree t.tree
  journal : s.journal = t.journal
  progress : s.progress = t.progress
  cache : Option.Rel K s.cache t.cache
  output : s.output = t.output
  marks : s.marks = t.marks

namespace Job
variable {α β γ δ : Type} {I : Session → Session → Prop} {R : α → β → Prop} {S : γ → δ → Prop}

/-- From related sessions both jobs end alike and leave related sessions. -/
def Paired (I : Session → Session → Prop) (R : α → β → Prop) (j : Job α) (k : Job β) : Prop :=
  ∀ s t, I s t → Agree R (j.runOn s).1 (k.runOn t).1 ∧ I (j.runOn s).2 (k.runOn t).2

theorem paired_pure {a : α} {b : β} (h : R a b) : Paired I R (pure a) (pure b) := fun _ _ hi => ⟨.ok h, hi⟩

theorem paired_throw (f : Failure) : Paired I R (throw f) (throw f) := fun _ _ hi => ⟨.error f, hi⟩

/-- Nothing follows a failure. -/
theorem paired_throw_bind (f : Failure) (j : γ → Job α) (k : δ → Job β) :
    Paired I R (throw f >>= j) (throw f >>= k) :=
  fun _ _ hi => ⟨.error f, hi⟩

theorem paired_get : Paired I I get get := fun _ _ hi => ⟨.ok hi, hi⟩

theorem paired_modify {f g : Session → Session} (h : ∀ s t, I s t → I (f s) (g t)) :
    Paired I Eq (modify f : Job Unit) (modify g) :=
  fun s t hi => ⟨.ok rfl, h s t hi⟩

theorem paired_ofExcept {r : Except Failure α} {r' : Except Failure β} (h : Agree R r r') :
    Paired I R (ofExcept r) (ofExcept r') := by
  intro s t hi
  rw [runOn_ofExcept, runOn_ofExcept]
  exact ⟨h, hi⟩

theorem Paired.bind {j : Job α} {k : Job β} {f : α → Job γ} {g : β → Job δ} (h : Paired I R j k)
    (hf : ∀ a b, R a b → Paired I S (f a) (g b)) : Paired I S (j >>= f) (k >>= g) := by
  intro s t hi
  obtain ⟨hr, hi'⟩ := h s t hi
  rw [runOn_bind, runOn_bind]
  generalize j.runOn s = p at hr hi'
  generalize k.runOn t = q at hr hi'
  obtain ⟨r, s'⟩ := p
  obtain ⟨r', t'⟩ := q
  cases hr with
  | ok h => exact hf _ _ h s' t' hi'
  | error e => exact ⟨.error e, hi'⟩

theorem Paired.attempt {j : Job α} {k : Job β} (h : Paired I R j k) :
    Paired I (Agree R) j.attempt k.attempt := by
  intro s t hi
  rw [runOn_attempt, runOn_attempt]
  exact ⟨.ok (h s t hi).1, (h s t hi).2⟩

theorem paired_mapM {f : γ → Job α} {g : δ → Job β} {xs : List γ} {ys : List δ} (h : List.Forall₂ S xs ys)
    (hf : ∀ x y, S x y → Paired I R (f x) (g y)) : Paired I (List.Forall₂ R) (xs.mapM f) (ys.mapM g) := by
  induction h with
  | nil => exact paired_pure .nil
  | cons hxy _ ih =>
    rw [List.mapM_cons, List.mapM_cons]
    refine (hf _ _ hxy).bind fun a b hab => ?_
    exact ih.bind fun as bs habs => paired_pure (.cons hab habs)

theorem paired_mapM_same {f : γ → Job α} {g : γ → Job β} (xs : List γ) (hf : ∀ x, Paired I R (f x) (g x)) :
    Paired I (List.Forall₂ R) (xs.mapM f) (xs.mapM g) :=
  paired_mapM (List.forall₂_same.mpr fun _ _ => rfl) fun x _ hx => hx ▸ hf x

/-- A job goes on in the same way after the same outcome. -/
theorem paired_ofExcept_same (r : Except Failure α) : Paired I Eq (ofExcept r) (ofExcept r) :=
  paired_ofExcept (.refl (fun _ => rfl) r)

section Sessions
variable {T : FileTree → FileTree → Prop} {K : SharedCache → SharedCache → Prop}

theorem isNone_eq_of_alike {s t : Session} (h : Session.Alike T K s t) : s.cache.isNone = t.cache.isNone := by
  have hc := h.cache
  generalize s.cache = c at hc ⊢
  generalize t.cache = d at hc ⊢
  cases hc <;> rfl

theorem paired_modifyProgress (f : Progress → Progress) :
    Paired (Session.Alike T K) Eq (modifyProgress f) (modifyProgress f) :=
  paired_modify fun _ _ h => { h with progress := congrArg f h.progress }

theorem paired_log (e : Event) : Paired (Session.Alike T K) Eq (log e) (log e) :=
  paired_modify fun _ _ h => { h with journal := congrArg (· ++ [e]) h.journal }

theorem paired_reportingFailure (function : String) {j : Job α} {k : Job β}
    (h : Paired (Session.Alike T K) R j k) :
    Paired (Session.Alike T K) R (reportingFailure function j) (reportingFailure function k) := by
  refine h.attempt.bind fun r r' hr => ?_
  cases hr with
  | ok h => exact paired_pure h
  | error f => exact (paired_log _).bind fun _ _ _ => paired_throw f

theorem paired_popOperation : Paired (Session.Alike T K) Eq popOperation popOperation := by
  refine paired_get.bind fun s t hi => ?_
  rw [hi.progress]
  split
  · exact paired_throw .noOperation
  · exact paired_modifyProgress _

theorem paired_operation (name : String) {j : Job α} {k : Job β} (h : Paired (Session.Alike T K) R j k) :
    Paired (Session.Alike T K) R (operation name j) (operation name k) := by
  refine (paired_modifyProgress _).bind fun _ _ _ => ?_
  refine (paired_log _).bind fun _ _ _ => ?_
  refine h.attempt.bind fun r r' hr => ?_
  cases hr with
  | ok h => exact (paired_log _).bind fun _ _ _ => paired_popOperation.bind fun _ _ _ => paired_ofExcept (.ok h)
  | error f => exact (paired_log _).bind fun _ _ _ => paired_popOperation.bind fun _ _ _ => paired_ofExcept (.error f)

theorem paired_module (name : String) {j : Job α} {k : Job β} (h : Paired (Session.Alike T K) R j k) :
    Paired (Session.Alike T K) R (Job.module name j) (Job.module name k) := by
  refine (paired_modifyProgress _).bind fun _ _ _ => ?_
  refine paired_get.bind fun s t hi => ?_
  rw [hi.progress]
  refine (paired_log _).bind fun _ _ _ => ?_
  refine h.attempt.bind fun r r' hr => ?_
  cases hr with
  | ok h =>
    refine paired_get.bind fun s' t' hi' => ?_
    rw [hi'.progress]
    exact (paired_log _).bind fun _ _ _ => paired_pure h
  | error f => exact (paired_log _).bind fun _ _ _ => paired_throw f

theorem paired_reportSummary : Paired (Session.Alike T K) Eq reportSummary reportSummary := by
  refine paired_get.bind fun s t hi => ?_
  rw [hi.progress]
  exact paired_log _

end Sessions
end Job
end ObjcAtlas
