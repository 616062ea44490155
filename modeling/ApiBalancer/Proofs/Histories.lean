import Mathlib.Data.List.Induction
import Mathlib.Tactic.Common

/-!
# Histories

What is told of a system as one thing after the other is done to it (`told`), and what a history
says of the present: what a setting was last made (`lastOf`), and what has happened since something
else has (`Since`).
-/

namespace ApiBalancer

variable {S M D β : Type}

/-- What is told as one thing after the other is done to a system. -/
def told (step : S → M → S) (tell : S → M → D) (s : S) : List M → List D
  | [] => []
  | m :: rest => tell s m :: told step tell (step s m) rest

lemma told_concat (step : S → M → S) (tell : S → M → D) (s : S) (moves : List M) (m : M) :
    told step tell s (moves ++ [m]) = told step tell s moves ++ [tell (moves.foldl step s) m] := by
  induction moves generalizing s with
  | nil => rfl
  | cons first rest ih => exact congrArg (tell s first :: ·) (ih (step s first))

/-- What keeps of a system with its history as something is done to it holds after everything that
is done to it. -/
theorem told_induction {step : S → M → S} {tell : S → M → D} {s : S} {P : List D → S → Prop}
    (hstart : P [] s)
    (hstep : ∀ history s m, P history s → P (history ++ [tell s m]) (step s m)) (moves : List M) :
    P (told step tell s moves) (moves.foldl step s) := by
  induction moves using List.reverseRecOn with
  | nil => exact hstart
  | append_singleton done m ih =>
    rw [told_concat, List.foldl_append]
    exact hstep _ _ m ih

/-- The last value that a history gives. -/
def lastOf (given : D → Option β) (history : List D) : Option β :=
  (history.filterMap given).getLast?

@[simp] lemma lastOf_nil (given : D → Option β) : lastOf given [] = none := rfl

lemma lastOf_concat (given : D → Option β) (history : List D) (d : D) :
    lastOf given (history ++ [d]) = (given d).or (lastOf given history) := by
  unfold lastOf
  rw [List.filterMap_append]
  cases hd : given d with
  | none => simp [hd]
  | some value => simp [hd]

lemma setting_told (setting : S → β) {step : S → M → S} {tell : S → M → D} {given : D → Option β}
    (hstep : ∀ s m, setting (step s m) = (given (tell s m)).getD (setting s)) (s : S)
    (moves : List M) :
    setting (moves.foldl step s) = (lastOf given (told step tell s moves)).getD (setting s) := by
  refine told_induction
    (P := fun history s' => setting s' = (lastOf given history).getD (setting s)) rfl ?_ moves
  intro history s' m ih
  rw [hstep, ih, lastOf_concat, Option.getD_or]

/-- Whether something like `p` has happened with nothing like `q` after it. -/
def Since (p q : D → Prop) (history : List D) : Prop :=
  ∃ before d since, history = before ++ d :: since ∧ p d ∧ ∀ x ∈ since, ¬q x

variable {p q : D → Prop} {history : List D} {d : D}

lemma not_since_nil : ¬Since p q [] := by
  rintro ⟨before, d, since, hsplit, -⟩
  simp at hsplit

/-- What stands somewhere in a history with one more entry is that entry, or it stood there
before. -/
lemma split_concat {before since : List D} {first : D}
    (h : history ++ [d] = before ++ first :: since) :
    (before = history ∧ first = d ∧ since = []) ∨
      ∃ since', since = since' ++ [d] ∧ history = before ++ first :: since' := by
  rcases List.eq_nil_or_concat since with rfl | ⟨since', last, rfl⟩
  · obtain ⟨rfl, hlast⟩ := List.append_inj' h rfl
    cases hlast
    exact .inl ⟨rfl, rfl, rfl⟩
  · rw [List.concat_eq_append] at h ⊢
    rw [← List.cons_append, ← List.append_assoc] at h
    obtain ⟨rfl, hlast⟩ := List.append_inj' h rfl
    cases hlast
    exact .inr ⟨since', rfl, rfl⟩

lemma since_concat : Since p q (history ++ [d]) ↔ p d ∨ ¬q d ∧ Since p q history := by
  constructor
  · rintro ⟨before, first, since, hsplit, hp, hsince⟩
    rcases split_concat hsplit with ⟨rfl, rfl, rfl⟩ | ⟨since', rfl, rfl⟩
    · exact .inl hp
    · exact .inr ⟨hsince d (by simp), before, first, since', rfl, hp,
        fun x hx => hsince x (List.mem_append_left _ hx)⟩
  · rintro (hp | ⟨hq, before, first, since, rfl, hp, hsince⟩)
    · exact ⟨history, d, [], rfl, hp, nofun⟩
    · refine ⟨before, first, since ++ [d], by simp, hp, fun x hx => ?_⟩
      rcases List.mem_append.1 hx with hx | hx
      · exact hsince x hx
      · rw [List.mem_singleton.1 hx]
        exact hq

end ApiBalancer
