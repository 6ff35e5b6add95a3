import TokenRotation.Proofs.Deeds

/-!
# Acceptance

What a deed that accepted a row found in the table, and what it left there.

* `Deed.Lawful.of_first` -- a first acceptance finds the row without a stamp and leaves it with one;
* `Deed.Lawful.of_grace` -- a later one finds it with a stamp, inside its grace window;
* `Deed.Lawful.of_accepted` -- whatever is accepted is not revoked.
-/

namespace TokenRotation

namespace Deed

variable {k : StoreKind} {d : Deed} {row : Row} {kind : ConsumeKind}

theorem eq_of_accepted? (h : d.accepted? = some (row, kind)) :
    ∃ actor before hash clock policy after,
      d = ⟨actor, before, .consume hash clock policy, .done (.accepted row kind), after⟩ := by
  unfold accepted? at h
  split at h
  · cases h
    exact ⟨_, _, _, _, _, _, rfl⟩
  · cases h

/-- **A first acceptance** finds the row without a stamp and leaves it with one. -/
theorem Lawful.of_first (lawful : d.Lawful k) (h : d.accepted? = some (row, .first)) :
    d.presented? = some row.hash ∧ ∃ r s, d.before.byHash? row.hash = some r ∧
      r.Evolves row ∧ r.revokedAt = none ∧ r.consumedAt = none ∧
        d.after.byHash? row.hash = some s ∧ s.consumedAt.isSome := by
  obtain ⟨actor, before, hash, clock, policy, after, rfl⟩ := eq_of_accepted? h
  change Settled k before (.consume hash clock policy) (.done (.accepted row .first)) after
    at lawful
  cases lawful with
  | kept hnot => exact absurd rfl (hnot _)
  | carried hc =>
    cases hc with
    | @first _ _ _ r now c g found shown verdict =>
      obtain ⟨hr, -, hnone, -, -⟩ := Row.judge_eq_firstUse_iff.mp verdict
      have hsame : (r.stamp c g).hash = hash :=
        (r.evolves_stamp c g).hash.trans (Table.hash_of_byHash? found)
      rw [hsame]
      refine ⟨rfl, r, _, found, r.evolves_stamp c g, hr, hnone, k.byHash?_change_presented
        (fun r => (r.evolves_stamp _ _).hash) found, ?_⟩
      simp [Row.stamp, hnone]

/-- **An acceptance inside the grace window** finds the row with a stamp and answers it as it is, at
    an instant neither after the stored deadline nor after the expiry. -/
theorem Lawful.of_grace (lawful : d.Lawful k) (h : d.accepted? = some (row, .grace)) :
    d.presented? = some row.hash ∧ d.before.byHash? row.hash = some row ∧ row.revokedAt = none ∧
      row.consumedAt.isSome ∧ ∃ now g, d.judgedAt? = some now ∧ row.graceExpiresAt = some g ∧
        now ≤ g ∧ now ≤ row.expiresAt := by
  obtain ⟨actor, before, hash, clock, policy, after, rfl⟩ := eq_of_accepted? h
  change Settled k before (.consume hash clock policy) (.done (.accepted row .grace)) after
    at lawful
  cases lawful with
  | kept hnot => exact absurd rfl (hnot _)
  | carried hc =>
    cases hc with
    | grace found shown verdict =>
      obtain ⟨hr, he, hsome, g, hg, hin⟩ := Row.judge_eq_withinGrace_iff.mp verdict
      have hhash := Table.hash_of_byHash? found
      refine ⟨congrArg some hhash.symm, hhash ▸ found, hr, hsome, _, g, ?_, hg, hin, he⟩
      simp [judgedAt?, shown, Except.toOption]

/-- **Whatever is accepted was presented** by its own hash, and is not revoked; it was accepted for
    the first time if it had no stamp. -/
theorem Lawful.of_accepted (lawful : d.Lawful k) (h : d.accepted? = some (row, kind)) :
    d.presented? = some row.hash ∧ ∃ r, d.before.byHash? row.hash = some r ∧ r.Evolves row ∧
      r.revokedAt = none ∧ (kind = .first ↔ r.consumedAt = none) := by
  cases kind with
  | first =>
    obtain ⟨hp, r, -, found, hrow, hr, hnone, -⟩ := lawful.of_first h
    exact ⟨hp, r, found, hrow, hr, by simp [hnone]⟩
  | grace =>
    obtain ⟨hp, found, hr, hsome, -⟩ := lawful.of_grace h
    refine ⟨hp, row, found, Row.Evolves.refl row, hr, ?_⟩
    rw [← Option.not_isSome_iff_eq_none]
    simp [hsome]

end Deed

end TokenRotation
