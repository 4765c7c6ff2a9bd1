import Mathlib.Algebra.Group.Nat.Defs
import VariantStore.Proofs.Body.Reading

/-!
# What collecting gives and what it leaves

A source yields some bytes, and then it is over or a failure stands in its way. Nothing else about
it shows when it is collected (`outcome_of_collect`): without a limit the bytes or the failure come
of it, and with one, more bytes than that are refused, also where the failure would have come behind
them. So it does not matter how the bytes are cut into pieces, or where a read is interrupted.

What is not read is left. With a limit, one byte more than that is taken at most: it shows that
there are too many (`held_collect_some`). The source that is left yields all the others, and then
what the whole one would have come to (`yields_rest_of_lt`).
-/

namespace VariantStore.Source

variable {source : Source} {content : Bytes} {failure : Option IoError}

/-! ## What is left -/

/-- All bytes that a source holds, within reach or not. -/
def held (source : Source) : Bytes := source.flatMap Piece.content

@[simp] theorem held_cons (p : Piece) (source : Source) :
    held (p :: source) = p.content ++ source.held := List.flatMap_cons

/-- What is read comes off the front of what is held. -/
theorem held_drainUpTo (quota : Nat) (source : Source) :
    source.held = (source.drainUpTo quota).bytes ++ (source.drainUpTo quota).rest.held := by
  fun_induction drainUpTo quota source with
  | case1 => rfl
  | case2 => rfl
  | case3 quota content rest hquota hempty =>
    rw [held_cons, Piece.content, List.isEmpty_iff.mp hempty, List.nil_append]
  | case4 quota content rest hquota hempty hcut =>
    simp [Piece.content, ← List.append_assoc]
  | case5 quota content rest hquota hempty hcut ih =>
    rw [held_cons, ih, ← List.append_assoc]
    rfl
  | case6 => rfl
  | case7 quota e rest hquota hkind ih => exact ih
  | case8 => rfl

/-- Reading on from where a quota was used up is reading on. -/
theorem drain_eq_prepend_rest {quota : Nat} (h : quota ≤ source.drain.bytes.length) :
    source.drain = (source.drainUpTo quota).rest.drain.prepend (source.drainUpTo quota).bytes := by
  fun_induction drainUpTo quota source with
  | case1 => rfl
  | case2 => rfl
  | case3 quota content rest hquota hempty =>
    rw [drain, if_pos hempty] at h
    exact absurd (Nat.le_zero.mp h) hquota
  | case4 quota content rest hquota hempty hcut =>
    have hrest : (content.drop quota).isEmpty = false := by
      rw [List.isEmpty_eq_false_iff, ← List.length_pos_iff, List.length_drop]
      omega
    rw [drain, if_neg hempty, drain, hrest]
    simp [Drained.prepend, ← List.append_assoc]
  | case5 quota content rest hquota hempty hcut ih =>
    rw [drain, if_neg hempty] at h ⊢
    have hle : quota - content.length ≤ (drain rest).bytes.length := by
      simp only [Drained.prepend, List.length_append] at h
      omega
    rw [ih hle]
    simp [Drained.prepend]
  | case6 => rfl
  | case7 quota e rest hquota hkind ih =>
    rw [drain, if_pos hkind] at h ⊢
    exact ih h
  | case8 quota e rest hquota hkind =>
    rw [drain, if_neg hkind] at h
    exact absurd (Nat.le_zero.mp h) hquota

theorem bytes_drainUpTo (quota : Nat) (source : Source) :
    (source.drainUpTo quota).bytes = source.drain.bytes.take quota := by
  rcases Nat.lt_or_ge source.drain.bytes.length quota with hlt | hge
  · rw [drainUpTo_of_lt hlt, List.take_of_length_le (Nat.le_of_lt hlt)]
  · exact (drainUpTo_of_le hge).1

/-- Without a limit, everything that can be read is read. -/
theorem held_collect_none (source : Source) :
    source.held = source.drain.bytes ++ (source.collect none).2.held := by
  have h := source.held_drainUpTo (source.drain.bytes.length + 1)
  rwa [drainUpTo_of_lt (Nat.lt_succ_self _)] at h

/-- With a limit, one byte more than that is read at most. -/
theorem held_collect_some (hcountable : source.drain.bytes.length < maxQuota) (limit : Nat) :
    source.held
      = source.drain.bytes.take (limit + 1) ++ (source.collect (some limit)).2.held := by
  have hquota : quotaFor limit = min (limit + 1) maxQuota := rfl
  have htake : source.drain.bytes.take (limit + 1) = (source.drainUpTo (quotaFor limit)).bytes := by
    rw [bytes_drainUpTo, List.take_eq_take_iff]
    omega
  rw [htake]
  exact source.held_drainUpTo (quotaFor limit)

/-- Bytes within the limit are collected, and the source is left, as without one. -/
theorem collect_some_of_le (hcountable : source.drain.bytes.length < maxQuota) {limit : Nat}
    (h : source.drain.bytes.length ≤ limit) :
    source.collect (some limit) = source.collect none := by
  have hquota : quotaFor limit = min (limit + 1) maxQuota := rfl
  refine Prod.ext ?_ ?_
  · rw [collect_some (Or.inr hcountable), if_neg (by omega)]
    rfl
  · show (source.drainUpTo (quotaFor limit)).rest = source.drain.rest
    rw [drainUpTo_of_lt (by omega)]

/-- Where the limit is exceeded, what is left yields the other bytes, and comes to the same end. -/
theorem yields_rest_of_lt (hcountable : source.drain.bytes.length < maxQuota) {limit : Nat}
    (h : limit < source.drain.bytes.length) :
    (source.collect (some limit)).2.Yields (source.drain.bytes.drop (limit + 1))
      source.drain.failure := by
  have hquota : quotaFor limit = limit + 1 := by
    have : quotaFor limit = min (limit + 1) maxQuota := rfl
    omega
  show (source.drainUpTo (quotaFor limit)).rest.Yields _ _
  rw [hquota]
  have hdrain : source.drain = _ := drain_eq_prepend_rest h
  have hbytes : source.drain.bytes = _ := congrArg Drained.bytes hdrain
  have hfailure : source.drain.failure = _ := congrArg Drained.failure hdrain
  refine yields_iff.mpr ⟨?_, hfailure.symm⟩
  have hlength : (source.drainUpTo (limit + 1)).bytes.length = limit + 1 := by
    rw [bytes_drainUpTo, List.length_take]
    omega
  rw [hbytes, Drained.prepend, List.drop_left' hlength]

/-- Bytes that were collected within a limit are collected again. -/
theorem collect_ofBytes {limit : Option Nat} (h : (source.collect limit).1 = .ok content) :
    ((ofBytes content).collect limit).1 = .ok content := by
  cases limit with
  | none => exact drain_ofBytes content
  | some l =>
    obtain ⟨hresult, hwithin⟩ := collect_some_eq_ok_iff.mp h
    obtain ⟨-, rfl⟩ := result_eq_ok_iff.mp hresult
    have hquota := length_drainUpTo_le (quotaFor l) source
    generalize (source.drainUpTo (quotaFor l)).bytes = content at hwithin hquota ⊢
    obtain ⟨hfailure, hbytes⟩ := result_eq_ok_iff.mp (drain_ofBytes content)
    refine collect_some_eq_ok_iff.mpr ⟨result_eq_ok_iff.mpr ?_, hwithin⟩
    rcases Nat.lt_or_eq_of_le hquota with hlt | heq
    · rw [drainUpTo_of_lt (by rwa [hbytes])]
      exact ⟨hfailure, hbytes⟩
    · -- the quota is used up by the last byte
      have hused : quotaFor l ≤ (ofBytes content).drain.bytes.length := by
        rw [hbytes]
        exact Nat.le_of_eq heq.symm
      obtain ⟨hbytes', hfailure'⟩ := drainUpTo_of_le hused
      refine ⟨hfailure', ?_⟩
      rw [hbytes', hbytes, List.take_of_length_le (Nat.le_of_eq heq)]

/-! ## The outcome -/

theorem collect_none_of_yields (h : source.Yields content failure) :
    (source.collect none).1 = failure.elim (.ok content) .error := result_of_yields h

theorem collect_some_of_yields (h : source.Yields content failure) {limit : Nat}
    (hquota : limit < maxQuota ∨ content.length < maxQuota) :
    (source.collect (some limit)).1
      = if limit < content.length then .error (limitExceeded limit)
        else (source.collect none).1 := by
  obtain ⟨rfl, -⟩ := yields_iff.mp h
  exact collect_some hquota

/-- All bytes are collected or none: a failure or the limit stands against it. -/
theorem collect_eq_ok_iff (h : source.Yields content failure) {limit : Option Nat} {found : Bytes}
    (hquota : ∀ l ∈ limit, l < maxQuota ∨ content.length < maxQuota) :
    (source.collect limit).1 = .ok found ↔
      failure = none ∧ (∀ l ∈ limit, content.length ≤ l) ∧ found = content := by
  have hnone : (source.collect none).1 = .ok found ↔ failure = none ∧ found = content := by
    rw [collect_none_of_yields h]
    cases failure with
    | none => simp [eq_comm]
    | some e => simp
  cases limit with
  | none => simpa using hnone
  | some l =>
    rw [collect_some_of_yields h (hquota l rfl)]
    split
    case isTrue hmore => simp [Nat.not_le.mpr hmore]
    case isFalse hwithin => simpa [Nat.not_lt.mp hwithin] using hnone

/-- Sources that yield the same are collected alike, however their bytes come in pieces. -/
theorem collect_eq_of_yields {other : Source} (h : source.Yields content failure)
    (hother : other.Yields content failure) (hcountable : content.length < maxQuota)
    (limit : Option Nat) : (other.collect limit).1 = (source.collect limit).1 := by
  cases limit with
  | none => rw [collect_none_of_yields h, collect_none_of_yields hother]
  | some limit =>
    rw [collect_some_of_yields h (Or.inr hcountable),
      collect_some_of_yields hother (Or.inr hcountable), collect_none_of_yields h,
      collect_none_of_yields hother]

/-- Every source yields some bytes, and a failure if one stands in the way. If the bytes can be
counted, this is all that matters for collecting them. Without a limit the failure comes of it, or
the bytes. With a limit, more bytes than that are refused, and everything else is as without one.
The bytes are taken off the source up to one more than the limit, and the others are left in it:
where there are too many, what is left yields the rest of them, and comes to the same end. -/
theorem outcome_of_collect (source : Source) :
    ∃ content failure, source.Yields content failure ∧
      (∀ content' failure', source.Yields content' failure' →
        content' = content ∧ failure' = failure) ∧
      (content.length < 2 ^ 64 - 1 →
        (source.collect none).1 = failure.elim (.ok content) .error ∧
        (∀ limit, (source.collect (some limit)).1
          = if limit < content.length then .error ⟨.invalidData, s!"payload exceeds {limit} bytes"⟩
            else (source.collect none).1) ∧
        (∀ limit, source.held
            = content.take (limit + 1) ++ (source.collect (some limit)).2.held ∧
          source.held.length
            = min content.length (limit + 1) + (source.collect (some limit)).2.held.length) ∧
        source.held = content ++ (source.collect none).2.held ∧
        (∀ limit, content.length ≤ limit →
          source.collect (some limit) = source.collect none) ∧
        (∀ limit, limit < content.length →
          (source.collect (some limit)).2.Yields (content.drop (limit + 1)) failure) ∧
        ∀ other : Source, other.Yields content failure →
          ∀ limit, (other.collect limit).1 = (source.collect limit).1) := by
  have hyields := source.yields_drain
  refine ⟨_, _, hyields, fun content' failure' h => ?_, fun hcountable => ?_⟩
  · obtain ⟨hbytes, hfailure⟩ := yields_iff.mp h
    exact ⟨hbytes.symm, hfailure.symm⟩
  · refine ⟨collect_none_of_yields hyields,
      fun limit => collect_some_of_yields hyields (Or.inr hcountable), fun limit => ?_,
      source.held_collect_none, fun limit => collect_some_of_le hcountable,
      fun limit => yields_rest_of_lt hcountable,
      fun other hother => collect_eq_of_yields hyields hother hcountable⟩
    have hheld := held_collect_some hcountable limit
    have hlength := congrArg List.length hheld
    rw [List.length_append, List.length_take, Nat.min_comm] at hlength
    exact ⟨hheld, hlength⟩

/-- Three bytes come in pieces with an interruption between them, and a failure behind them. A
limit of two is exceeded before the failure shows, and leaves it with the byte behind it. -/
theorem outcome_of_collect_broken :
    let reset : IoError := ⟨.connectionReset, "upstream went away"⟩
    let source : Source :=
      [.bytes [1, 2], .failure ⟨.interrupted, ""⟩, .bytes [3], .failure reset, .bytes [4]]
    (source.collect none).1 = .error reset ∧ (source.collect (some 3)).1 = .error reset ∧
      (source.collect (some 2)).1 = .error ⟨.invalidData, "payload exceeds 2 bytes"⟩ ∧
      (source.collect (some 2)).2.held = [4] ∧
      (source.collect (some 1)).2.Yields [3] (some reset) := by
  intro reset source
  obtain ⟨content, failure, -, hunique, hcollect⟩ := outcome_of_collect source
  have hyields : source.Yields [1, 2, 3] (some reset) := yields_iff.mpr ⟨rfl, rfl⟩
  obtain ⟨rfl, rfl⟩ := hunique _ _ hyields
  obtain ⟨hnone, hsome, hdrawn, -, -, hrest, -⟩ := hcollect (by decide)
  refine ⟨hnone, ?_, ?_, ?_, hrest 1 (by decide)⟩
  · rw [hsome 3, if_neg (by decide)]
    exact hnone
  · rw [hsome 2, if_pos (by decide)]
    rfl
  · have hheld : [1, 2, 3] ++ [4] = [1, 2, 3] ++ (source.collect (some 2)).2.held := (hdrawn 2).1
    exact (List.append_cancel_left hheld).symm

end VariantStore.Source
