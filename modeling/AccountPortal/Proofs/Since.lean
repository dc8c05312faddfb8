/-!
# What a sequence of events remembers

Events stand in the order they happened in. `Since starts ends h`: an event of `h` that starts
something, after which none ends it. `latest f h` and `earliest f h`: what the last and the first
event of `h` tell that tell anything, and `afterLatest`, `afterEarliest`: what happened after these.
Each is given by what one more event makes of it (`since_concat`, `latest_concat`, …).
-/

namespace AccountPortal

variable {ε α : Type}

/-! ## Since -/

def Since (starts ends : ε → Prop) (h : List ε) : Prop :=
  ∃ before e after, h = before ++ e :: after ∧ starts e ∧ ∀ x ∈ after, ¬ ends x

theorem not_since_nil (starts ends : ε → Prop) : ¬ Since starts ends [] := by
  rintro ⟨before, e, after, h, -⟩
  simp at h

theorem since_concat (starts ends : ε → Prop) (h : List ε) (e : ε) :
    Since starts ends (h ++ [e]) ↔ starts e ∨ (Since starts ends h ∧ ¬ ends e) := by
  constructor
  · rintro ⟨before, s, after, heq, hs, hafter⟩
    rcases List.eq_nil_or_concat after with rfl | ⟨after', x, rfl⟩
    · obtain ⟨-, hx⟩ := List.append_inj' heq rfl
      simp only [List.cons.injEq, and_true] at hx
      exact Or.inl (hx ▸ hs)
    · rw [List.concat_eq_append] at heq hafter
      rw [← List.cons_append, ← List.append_assoc] at heq
      obtain ⟨hh, hx⟩ := List.append_inj' heq rfl
      simp only [List.cons.injEq, and_true] at hx
      refine Or.inr ⟨⟨before, s, after', hh, hs, fun y hy => hafter y (by simp [hy])⟩, ?_⟩
      exact hx ▸ hafter x (by simp)
  · rintro (hs | ⟨⟨before, s, after, rfl, hs, hafter⟩, he⟩)
    · exact ⟨h, e, [], rfl, hs, by simp⟩
    · refine ⟨before, s, after ++ [e], by simp, hs, fun x hx => ?_⟩
      rcases List.mem_append.mp hx with hx | hx
      · exact hafter x hx
      · rw [List.mem_singleton] at hx
        exact hx ▸ he

/-- What holds since a start, across an event that ends it, was started again after that event. -/
theorem Since.start_after {starts ends : ε → Prop} {before after : List ε} {e : ε}
    (h : Since starts ends (before ++ e :: after)) (hs : ¬ starts e) (he : ends e) :
    ∃ x ∈ after, starts x := by
  obtain ⟨pre, s, post, heq, hstart, hpost⟩ := h
  rcases List.append_eq_append_iff.mp heq with ⟨mid, hpre, hmid⟩ | ⟨mid, hbefore, hmid⟩
  · cases mid with
    | nil =>
      rw [List.nil_append, List.cons.injEq] at hmid
      exact absurd (hmid.1 ▸ hstart) hs
    | cons m mid =>
      rw [List.cons_append, List.cons.injEq] at hmid
      exact ⟨s, by rw [hmid.2]; simp, hstart⟩
  · cases mid with
    | nil =>
      rw [List.nil_append, List.cons.injEq] at hmid
      exact absurd (hmid.1 ▸ hstart) hs
    | cons m mid =>
      rw [List.cons_append, List.cons.injEq] at hmid
      exact absurd he (hpost e (by rw [hmid.2]; simp))

/-! ## The latest and the earliest -/

variable (f : ε → Option α)

def latest (h : List ε) : Option α := h.reverse.findSome? f

def earliest (h : List ε) : Option α := h.findSome? f

/-- What happened after the latest event that tells something. -/
def afterLatest (h : List ε) : List ε := (h.reverse.takeWhile fun e => (f e).isNone).reverse

/-- What happened after the earliest event that tells something. -/
def afterEarliest (h : List ε) : List ε := (h.dropWhile fun e => (f e).isNone).drop 1

theorem latest_eq_none_iff (h : List ε) : latest f h = none ↔ ∀ e ∈ h, f e = none := by
  simp [latest, List.findSome?_eq_none_iff]

theorem earliest_eq_none_iff (h : List ε) : earliest f h = none ↔ ∀ e ∈ h, f e = none := by
  simp [earliest, List.findSome?_eq_none_iff]

/-- What is told of events that tell nothing is nothing. -/
theorem earliest_map_of_none {β : Type} (g : ε → α → β) {f : ε → Option α} {h : List ε}
    (silent : earliest f h = none) : earliest (fun e => (f e).map (g e)) h = none := by
  rw [earliest_eq_none_iff] at silent ⊢
  intro e he
  rw [silent e he, Option.map_none]

theorem latest_concat (h : List ε) (e : ε) : latest f (h ++ [e]) = (f e).or (latest f h) := by
  unfold latest
  rw [List.reverse_append, List.reverse_singleton, List.singleton_append, List.findSome?_cons]
  cases f e <;> rfl

/-- What the later events tell counts, if they tell anything. -/
theorem latest_append (h h' : List ε) : latest f (h ++ h') = (latest f h').or (latest f h) := by
  unfold latest
  rw [List.reverse_append, List.findSome?_append]

theorem earliest_concat (h : List ε) (e : ε) :
    earliest f (h ++ [e]) = (earliest f h).or (f e) := by
  unfold earliest
  rw [List.findSome?_append, List.findSome?_singleton]

theorem afterLatest_concat (h : List ε) (e : ε) :
    afterLatest f (h ++ [e]) = if (f e).isSome then [] else afterLatest f h ++ [e] := by
  unfold afterLatest
  rw [List.reverse_append, List.reverse_singleton, List.singleton_append, List.takeWhile_cons]
  cases f e <;> simp

theorem afterEarliest_concat (h : List ε) (e : ε) :
    afterEarliest f (h ++ [e]) =
      if (earliest f h).isSome then afterEarliest f h ++ [e] else [] := by
  unfold afterEarliest earliest
  induction h with
  | nil => cases he : f e <;> simp [he]
  | cons x rest ih =>
    cases hx : f x with
    | none => simpa [List.dropWhile_cons, hx] using ih
    | some a => simp [hx]

end AccountPortal
