import ItemGateway.Proofs.ConfiguredServers
import Mathlib.Algebra.Group.Nat.Defs

namespace ItemGateway

namespace Number

def Denotes (s : List Char) (n : Nat) : Prop :=
  ∃ ds, (s = ds ∨ s = '+' :: ds) ∧ ds ≠ [] ∧ (∀ d ∈ ds, d.isDigit = true) ∧ Nat.ofDigitChars 10 ds 0 = n

theorem Denotes.ne_nil {s : List Char} {n : Nat} (h : Denotes s n) : s ≠ [] := by
  obtain ⟨ds, rfl | rfl, hn, -⟩ := h
  · exact hn
  · exact List.cons_ne_nil _ ds

theorem le_ofDigitChars (n : Nat) (ds : List Char) : n ≤ Nat.ofDigitChars 10 ds n := by
  induction ds generalizing n with
  | nil => exact Nat.le_refl n
  | cons d ds ih =>
    rw [Nat.ofDigitChars_cons]
    exact Nat.le_trans (by omega) (ih _)

theorem readDigits_eq_ok_iff {bound n m : Nat} (h : n < bound) {ds : List Char} :
    readDigits bound n ds = .ok m ↔
      (∀ d ∈ ds, d.isDigit = true) ∧ Nat.ofDigitChars 10 ds n = m ∧ m < bound := by
  induction ds generalizing n with
  | nil =>
    rw [readDigits, Except.ok.injEq, Nat.ofDigitChars_nil]
    constructor
    · rintro rfl
      exact ⟨nofun, rfl, h⟩
    · exact fun hm => hm.2.1
  | cons d ds ih =>
    rw [readDigits, Nat.ofDigitChars_cons, List.forall_mem_cons]
    by_cases hd : d.isDigit = true
    · by_cases hb : bound ≤ 10 * n + digitValue d
      · -- The number only grows with the digits that follow, so the bound is passed in the end as well.
        have hg := le_ofDigitChars (10 * n + digitValue d) ds
        rw [if_neg (by simp [hd]), if_pos hb]
        refine iff_of_false nofun ?_
        rintro ⟨-, rfl, hm⟩
        exact absurd (Nat.le_trans hb hg) (Nat.not_le_of_lt hm)
      · rw [if_neg (by simp [hd]), if_neg hb, ih (Nat.lt_of_not_le hb)]
        simp only [hd, true_and]
        rfl
    · rw [if_pos (by simpa using hd)]
      exact iff_of_false nofun fun ha => hd ha.1.1

theorem readUnsigned_plus {ds : List Char} (h : ds ≠ []) :
    readUnsigned ('+' :: ds) = readDigits (2 ^ 64) 0 ds := by
  cases ds with
  | nil => exact absurd rfl h
  | cons d ds => rfl

theorem readUnsigned_bare {ds : List Char} (h : ds ≠ []) (hp : ds.head? ≠ some '+') :
    readUnsigned ds = readDigits (2 ^ 64) 0 ds := by
  unfold readUnsigned
  split
  · exact absurd rfl h
  · exact absurd rfl hp
  · exact absurd rfl hp
  · rfl

theorem readUnsigned_eq_ok_iff {s : List Char} {n : Nat} :
    readUnsigned s = .ok n ↔ Denotes s n ∧ n < 2 ^ 64 := by
  have hz : 0 < 2 ^ 64 := by decide
  constructor
  · intro h
    by_cases hs : s = []
    · subst hs
      cases h
    by_cases hp : s.head? = some '+'
    · obtain ⟨ds, rfl⟩ := List.head?_eq_some_iff.mp hp
      have hd : ds ≠ [] := by
        rintro rfl
        cases h
      rw [readUnsigned_plus hd, readDigits_eq_ok_iff hz] at h
      exact ⟨⟨ds, .inr rfl, hd, h.1, h.2.1⟩, h.2.2⟩
    · rw [readUnsigned_bare hs hp, readDigits_eq_ok_iff hz] at h
      exact ⟨⟨s, .inl rfl, hs, h.1, h.2.1⟩, h.2.2⟩
  · rintro ⟨⟨ds, hs, hn, hd, hv⟩, hb⟩
    have hr := (readDigits_eq_ok_iff hz).mpr ⟨hd, hv, hb⟩
    rcases hs with rfl | rfl
    · rwa [readUnsigned_bare hn]
      intro hp
      exact absurd (hd _ (List.mem_of_head? hp)) (by decide)
    · rwa [readUnsigned_plus hn]

theorem denotes_zeros_append (zeros n : Nat) : Denotes (List.replicate zeros '0' ++ Nat.toDigits 10 n) n := by
  refine ⟨_, .inl rfl, ?_, ?_, ?_⟩
  · exact List.append_ne_nil_of_right_ne_nil _ Nat.toDigits_ne_nil
  · intro d hd
    rcases List.mem_append.mp hd with hz | hd
    · rw [List.eq_of_mem_replicate hz]
      decide
    · exact Nat.isDigit_of_mem_toDigits (by decide) (by decide) hd
  · rw [Nat.ofDigitChars_append, Nat.ofDigitChars_replicate_zero, Nat.mul_zero, Nat.ofDigitChars_ten_toDigits]

end Number

namespace Config

inductive IsInterval (props : Texts) : Nat → Prop
  | named {text : String} {n : Nat} (h : props["refresh"]? = some text) (hb : Text.trimmed text ≠ "")
      (hd : Number.Denotes (Text.trimmed text).toList n) (hn : n < 2 ^ 64) : IsInterval props n
  | blank {text : String} (h : props["refresh"]? = some text) (hb : Text.trimmed text = "") :
      IsInterval props 60000
  | absent (h : props["refresh"]? = none) : IsInterval props 60000

theorem intervalOf_of_some {props : Texts} {text : String} (h : props["refresh"]? = some text)
    (hb : Text.trimmed text ≠ "") {n : Nat} :
    intervalOf props = .ok n ↔ Number.Denotes (Text.trimmed text).toList n ∧ n < 2 ^ 64 := by
  rw [← Number.readUnsigned_eq_ok_iff, intervalOf, word?_of_some h, if_neg hb]
  dsimp only
  cases Number.readUnsigned (Text.trimmed text).toList <;> simp

theorem intervalOf_of_wordless {props : Texts} (h : word? props "refresh" = none) : intervalOf props = .ok 60000 := by
  rw [intervalOf, h]
  rfl

theorem isInterval_iff {props : Texts} {n : Nat} : IsInterval props n ↔ intervalOf props = .ok n := by
  constructor
  · intro hi
    cases hi with
    | named h hb hd hn => exact (intervalOf_of_some h hb).mpr ⟨hd, hn⟩
    | blank h hb => exact intervalOf_of_wordless ((word?_of_some h).trans (if_pos hb))
    | absent h => exact intervalOf_of_wordless (word?_of_none h)
  · intro hi
    cases h : props["refresh"]? with
    | none =>
      rw [intervalOf_of_wordless (word?_of_none h)] at hi
      cases hi
      exact .absent h
    | some text =>
      by_cases hb : Text.trimmed text = ""
      · rw [intervalOf_of_wordless ((word?_of_some h).trans (if_pos hb))] at hi
        cases hi
        exact .blank h hb
      · obtain ⟨hd, hn⟩ := (intervalOf_of_some h hb).mp hi
        exact .named h hb hd hn

theorem intervalOf_fails_iff {props : Texts} :
    (∃ f, intervalOf props = .error f) ↔
      ∃ text, props["refresh"]? = some text ∧ Text.trimmed text ≠ "" ∧
        ¬∃ n < 2 ^ 64, Number.Denotes (Text.trimmed text).toList n := by
  have fails : (∃ f, intervalOf props = .error f) ↔ ¬∃ n, IsInterval props n := by
    simp only [isInterval_iff]
    cases intervalOf props <;> simp
  rw [fails]
  constructor
  · intro hn
    cases h : props["refresh"]? with
    | none => exact absurd ⟨_, .absent h⟩ hn
    | some text =>
      have hb : Text.trimmed text ≠ "" := fun hb => hn ⟨_, .blank h hb⟩
      refine ⟨text, rfl, hb, ?_⟩
      rintro ⟨n, hlt, hd⟩
      exact hn ⟨n, .named h hb hd hlt⟩
  · rintro ⟨text, h, hb, hn⟩ ⟨n, hi⟩
    obtain ⟨hd, hlt⟩ := (intervalOf_of_some h hb).mp (isInterval_iff.mp hi)
    exact hn ⟨n, hlt, hd⟩

theorem map_interval_ofProperties {props : Texts} (h : props.isEmpty = false) :
    (ofProperties props).map Config.interval = intervalOf props := by
  rw [ofProperties, h]
  cases intervalOf props <;> rfl

theorem ofProperties_fails_iff {props : Texts} :
    (∃ f, ofProperties props = .error f) ↔ props.isEmpty = true ∨ ∃ f, intervalOf props = .error f := by
  cases h : props.isEmpty with
  | true => simp [ofProperties, h]
  | false =>
    rw [← map_interval_ofProperties h]
    cases ofProperties props <;> simp [Except.map]

/-- The interval is exactly the number that the properties spell, or one minute if they spell none. -/
theorem refresh_interval_exact (props : Texts) :
    ((∃ f, ofProperties props = .error f) ↔
      props.isEmpty = true ∨ ∃ text, props["refresh"]? = some text ∧ Text.trimmed text ≠ "" ∧
        ¬∃ n < 2 ^ 64, Number.Denotes (Text.trimmed text).toList n) ∧
      (∀ c, ofProperties props = .ok c →
        (∀ n, IsInterval props n ↔ n = c.interval) ∧
          ∀ {σ : Type} (engine : Engine σ) (state : σ) (items : Texts),
            (Gateway.ofConfig engine state (c.withItems items)).interval = c.interval) ∧
      (∀ text zeros n, n < 2 ^ 64 → props["refresh"]? = some text →
        Text.trimmed text = String.ofList (List.replicate zeros '0' ++ Nat.toDigits 10 n) →
          ∃ c, ofProperties props = .ok c ∧ c.interval = n) ∧
      ∀ props' : Texts, props.isEmpty = false → props'.isEmpty = false →
        props'["refresh"]? = props["refresh"]? →
          (ofProperties props').map Config.interval = (ofProperties props).map Config.interval := by
  refine ⟨?_, ?_, ?_, ?_⟩
  · rw [ofProperties_fails_iff, intervalOf_fails_iff]
  · intro c hc
    obtain ⟨interval, hi, rfl⟩ := eq_of_ofProperties hc
    refine ⟨?_, fun _ _ _ => rfl⟩
    intro n
    rw [isInterval_iff, hi, Except.ok.injEq, eq_comm]
  · intro text zeros n hn h ht
    have hd : Number.Denotes (Text.trimmed text).toList n := by
      rw [ht, String.toList_ofList]
      exact Number.denotes_zeros_append zeros n
    have hb : Text.trimmed text ≠ "" := fun hb => hd.ne_nil (by rw [hb]; rfl)
    have he : props.isEmpty = false := by
      rw [Std.TreeMap.isEmpty_eq_false_iff_exists_mem]
      exact ⟨"refresh", Std.TreeMap.mem_iff_isSome_getElem?.mpr (Option.isSome_of_eq_some h)⟩
    have hi := (intervalOf_of_some h hb).mpr ⟨hd, hn⟩
    rw [← map_interval_ofProperties he] at hi
    cases hc : ofProperties props with
    | error f =>
      rw [hc] at hi
      cases hi
    | ok c =>
      rw [hc] at hi
      exact ⟨c, rfl, Except.ok.inj hi⟩
  · intro props' h h' hr
    rw [map_interval_ofProperties h, map_interval_ofProperties h', intervalOf, intervalOf, word?, word?, hr]

example : (ofProperties ((∅ : Texts).insert "refresh" " +018446744073709551615\n")).map Config.interval =
    .ok 18446744073709551615 := rfl

end Config

end ItemGateway
