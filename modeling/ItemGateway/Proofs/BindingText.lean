import ItemGateway.Binding
import ItemGateway.Proofs.Entries
import Mathlib.Data.List.Chain
import Mathlib.Data.List.TakeWhile

namespace ItemGateway

theorem Text.trim_enclosed {lead : List Char} (hl : ∀ c ∈ lead, isBlank c = true) {c d : Char}
    (hc : isBlank c = false) (hd : isBlank d = false) {s body : List Char} (hs : c :: s = body ++ [d])
    (trail : List Char) :
    trim (lead ++ (c :: s) ++ trail) = c :: s ++ (trail.reverse.dropWhile isBlank).reverse := by
  have hfront : (lead ++ (c :: s) ++ trail).dropWhile isBlank = c :: s ++ trail := by
    rw [List.append_assoc, List.dropWhile_append_of_pos hl, List.cons_append,
      List.dropWhile_cons_of_neg (by simp [hc])]
  have hback : ((c :: s ++ trail).reverse.dropWhile isBlank) =
      trail.reverse.dropWhile isBlank ++ (c :: s).reverse := by
    rw [List.reverse_append, List.dropWhile_append]
    split
    · next he =>
      rw [List.isEmpty_iff.mp he, hs, List.reverse_append, List.reverse_singleton,
        List.singleton_append, List.dropWhile_cons_of_neg (by simp [hd]), List.nil_append]
    · rfl
  rw [trim, hfront, hback, List.reverse_append, List.reverse_reverse]

namespace Binding

def Sealed (address : List Char) : Prop :=
  address.IsChain fun c d => ¬(c = ']' ∧ isSeparator d = true)

instance (address : List Char) : Decidable (Sealed address) :=
  inferInstanceAs (Decidable (address.IsChain _))

inductive SpelledOut : List (Direction × String) → List Char → Prop
  | single (dir : Direction) (address : String) :
      SpelledOut [(dir, address)] (renderEntry dir address.toList)
  | cons (dir : Direction) (address : String) {gap : List Char} (hne : gap ≠ [])
      (hg : ∀ c ∈ gap, isSeparator c = true) {es : List (Direction × String)} {s : List Char}
      (hs : SpelledOut es s) : SpelledOut ((dir, address) :: es) (renderEntry dir address.toList ++ gap ++ s)

theorem opening?_mark (dir : Direction) (rest : List Char) :
    opening? (dir.mark ++ '[' :: rest) = some (dir, rest) := by
  cases dir <;> rfl

def Shaped (s : List Char) : Prop :=
  ∃ (dir : Direction) (body tail : List Char),
    s = dir.mark ++ '[' :: (body ++ ']' :: tail) ∧ ∀ c ∈ tail, isSeparator c = true

theorem opening?_eq_some_iff {s rest : List Char} {dir : Direction} :
    opening? s = some (dir, rest) ↔ s = dir.mark ++ '[' :: rest := by
  constructor
  · intro h
    unfold opening? at h
    split at h
    case h_4 => cases h
    all_goals
      cases h
      rfl
  · rintro rfl
    exact opening?_mark dir rest

theorem endsClosed_iff {s : List Char} :
    endsClosed s = true ↔ ∃ body tail, s = body ++ ']' :: tail ∧ ∀ c ∈ tail, isSeparator c = true := by
  constructor
  · intro h
    have hh : (s.reverse.dropWhile isSeparator).head? = some ']' := of_decide_eq_true h
    obtain ⟨body, hb⟩ := List.head?_eq_some_iff.mp hh
    refine ⟨body.reverse, (s.reverse.takeWhile isSeparator).reverse, ?_, ?_⟩
    · have hs := congrArg List.reverse (s.reverse.takeWhile_append_dropWhile (p := isSeparator))
      rw [hb, List.reverse_append, List.reverse_cons, List.reverse_reverse, List.append_assoc] at hs
      exact hs.symm
    · intro c hc
      exact List.mem_takeWhile_imp (List.mem_reverse.mp hc)
  · rintro ⟨body, tail, rfl, ht⟩
    have hb : isSeparator ']' = false := by decide
    rw [endsClosed, List.reverse_append, List.reverse_cons, List.append_assoc,
      List.dropWhile_append_of_pos (by simpa using ht), List.singleton_append,
      List.dropWhile_cons_of_neg (by simp [hb])]
    rfl

theorem isValidText_iff {s : List Char} : isValidText s = true ↔ Shaped s := by
  constructor
  · intro h
    unfold isValidText at h
    split at h
    · next dir rest ho =>
      obtain ⟨body, tail, rfl, ht⟩ := endsClosed_iff.mp h
      exact ⟨dir, body, tail, opening?_eq_some_iff.mp ho, ht⟩
    · cases h
  · rintro ⟨dir, body, tail, rfl, ht⟩
    rw [isValidText, opening?_mark]
    exact endsClosed_iff.mpr ⟨body, tail, rfl, ht⟩

theorem opening?_separator {c : Char} (h : isSeparator c = true) (s : List Char) :
    opening? (c :: s) = none := by
  unfold opening?
  split
  case h_4 => rfl
  all_goals
    next he =>
    obtain ⟨rfl, -⟩ := List.cons.inj he
    exact absurd h (by decide)

theorem address?_append {a : List Char} (h : Sealed a) {t : List Char}
    (ht : ∀ c ∈ t.head?, isSeparator c = true) : address? (a ++ ']' :: t) = some (a, t.tail) := by
  induction a with
  | nil =>
    cases t with
    | nil => rfl
    | cons d t =>
      have hd : isSeparator d = true := ht d rfl
      simp [address?, hd]
  | cons c a ih =>
    cases a with
    | nil =>
      -- What follows the last character is the closing bracket, which is no separator.
      have hb : isSeparator ']' = false := by decide
      rw [List.nil_append] at ih
      simp [address?, hb, ih .nil]
    | cons d a =>
      obtain ⟨hcd, hr⟩ := List.isChain_cons_cons.mp h
      have hn : (decide (c = ']') && isSeparator d) = false := by simpa using hcd
      have hi := ih hr
      rw [List.cons_append] at hi ⊢
      simp [address?, hn, hi]

theorem leading?_renderEntry (dir : Direction) {a t : List Char} (h : Sealed a)
    (ht : ∀ c ∈ t.head?, isSeparator c = true) :
    leading? (renderEntry dir a ++ t) = some (dir, a, t.tail) := by
  have hr : renderEntry dir a ++ t = dir.mark ++ '[' :: (a ++ ']' :: t) := by simp [renderEntry]
  simp only [leading?, hr, opening?_mark, address?_append h ht, Option.map_some]

theorem entries_of_leading? {s a rest : List Char} {dir : Direction} (h : leading? s = some (dir, a, rest)) :
    entries s = (dir, a) :: entries rest := by
  rw [entries]
  split
  · next he =>
    rw [h] at he
    obtain ⟨rfl, rfl, rfl⟩ : dir = _ ∧ a = _ ∧ rest = _ := by simpa using he
    rfl
  · next he => simp [h] at he

theorem entries_nil : entries [] = [] := by
  rw [entries]
  rfl

theorem entries_append {gap : List Char} (h : ∀ c ∈ gap, isSeparator c = true) (s : List Char) :
    entries (gap ++ s) = entries s := by
  induction gap with
  | nil => rfl
  | cons c gap ih =>
    obtain ⟨hc, hg⟩ := List.forall_mem_cons.mp h
    -- No entry begins with a separator, which is therefore passed over.
    have he : leading? (c :: (gap ++ s)) = none := by simp only [leading?, opening?_separator hc]
    rw [List.cons_append, entries]
    split
    · next hs => simp [he] at hs
    · exact ih hg

theorem entries_renderEntry (dir : Direction) {a gap : List Char} (h : Sealed a)
    (hg : ∀ c ∈ gap, isSeparator c = true) {s : List Char} (hs : gap ≠ [] ∨ s = []) :
    entries (renderEntry dir a ++ gap ++ s) = (dir, a) :: entries s := by
  have ht : ∀ c ∈ (gap ++ s).head?, isSeparator c = true := by
    cases gap with
    | nil => simp [hs.resolve_left (by simp)]
    | cons d gap =>
      intro c hc
      obtain rfl : d = c := by simpa using hc
      exact hg d List.mem_cons_self
  have htail : entries (gap ++ s).tail = entries s := by
    cases gap with
    | nil => simp [hs.resolve_left (by simp)]
    | cons d gap => exact entries_append (fun c hc => hg c (List.mem_cons_of_mem d hc)) s
  rw [List.append_assoc, entries_of_leading? (leading?_renderEntry dir h ht), htail]

namespace SpelledOut

variable {es : List (Direction × String)} {s : List Char}

theorem entries_eq (h : SpelledOut es s) (ha : ∀ e ∈ es, Sealed e.2.toList) {trail : List Char}
    (ht : ∀ c ∈ trail, isSeparator c = true) :
    entries (s ++ trail) = es.map fun e => (e.1, e.2.toList) := by
  induction h with
  | single dir address =>
    have he := entries_renderEntry dir (ha _ List.mem_cons_self) ht (.inr rfl)
    rwa [List.append_nil, entries_nil] at he
  | cons dir address hne hg hs ih =>
    obtain ⟨hd, ha⟩ := List.forall_mem_cons.mp ha
    rw [List.append_assoc, entries_renderEntry dir hd hg (.inl hne), ih ha, List.map_cons]

theorem ends_closed (h : SpelledOut es s) : ∃ body, s = body ++ [']'] := by
  induction h with
  | single dir address => exact ⟨dir.mark ++ '[' :: address.toList, by simp [renderEntry]⟩
  | cons dir address _ _ _ ih =>
    obtain ⟨body, rfl⟩ := ih
    exact ⟨_, (List.append_assoc _ _ _).symm⟩

theorem begins_open (h : SpelledOut es s) :
    ∃ (dir : Direction) (body : List Char), s = dir.mark ++ '[' :: (body ++ [']']) := by
  cases h with
  | single dir address => exact ⟨dir, address.toList, rfl⟩
  | @cons dir address gap _ _ _ _ hs =>
    obtain ⟨body, rfl⟩ := hs.ends_closed
    exact ⟨dir, address.toList ++ ']' :: (gap ++ body), by simp [renderEntry]⟩

theorem isValidText (h : SpelledOut es s) {trail : List Char} (ht : ∀ c ∈ trail, isSeparator c = true) :
    isValidText (s ++ trail) = true := by
  obtain ⟨dir, body, rfl⟩ := h.begins_open
  exact isValidText_iff.mpr ⟨dir, body, trail, by simp, ht⟩

theorem trim_eq (h : SpelledOut es s) {lead : List Char} (hl : ∀ c ∈ lead, Text.isBlank c = true)
    (trail : List Char) :
    Text.trim (lead ++ s ++ trail) = s ++ (trail.reverse.dropWhile Text.isBlank).reverse := by
  -- Neither the mark in front nor the bracket at the end is blank.
  obtain ⟨body, hb⟩ := h.ends_closed
  obtain ⟨dir, t, ht⟩ := h.begins_open
  have hm : ∃ c rest, dir.mark = c :: rest ∧ Text.isBlank c = false := by
    cases dir <;> exact ⟨_, _, rfl, by decide⟩
  obtain ⟨c, rest, hc, hn⟩ := hm
  rw [hc, List.cons_append] at ht
  subst ht
  exact Text.trim_enclosed hl hn (by decide) hb trail

end SpelledOut

theorem address_put (b : Binding) (dir dir' : Direction) (address : String) :
    (b.put dir address).address dir' = if dir' = dir then some address else b.address dir' := by
  cases dir <;> cases dir' <;> rfl

theorem address_ofEntries (es : List (Direction × String)) (dir : Direction) :
    (ofEntries (es.map fun e => (e.1, e.2.toList))).address dir = es.reverse.lookup dir := by
  have h (b : Binding) (e : Direction × String) (d : Direction) :
      (b.put e.1 e.2).address d = if d == e.1 then some e.2 else b.address d := by
    simp only [address_put, beq_iff_eq]
  have hf := get_foldl_put address (fun b e => b.put e.1 e.2) h es {} dir
  have he : ({} : Binding).address dir = none := by cases dir <;> rfl
  rw [ofEntries, List.foldl_map]
  simp only [String.ofList_toList, hf, he, Option.or_none]

/-- An address may hold anything but a closing bracket right before a separator. -/
theorem parse_written {es : List (Direction × String)} {lead s trail : List Char}
    (hl : ∀ c ∈ lead, Text.isBlank c = true) (hs : SpelledOut es s)
    (ht : ∀ c ∈ trail, isSeparator c = true) (ha : ∀ e ∈ es, Sealed e.2.toList) :
    parse (String.ofList (lead ++ s ++ trail)) =
      .ok { select := es.reverse.lookup .select, update := es.reverse.lookup .update,
            insert := es.reverse.lookup .insert } := by
  have ht' : ∀ c ∈ (trail.reverse.dropWhile Text.isBlank).reverse, isSeparator c = true := by
    intro c hc
    exact ht c (List.mem_reverse.mp ((List.dropWhile_sublist _).mem (List.mem_reverse.mp hc)))
  rw [parse, String.toList_ofList, hs.trim_eq hl, if_pos (hs.isValidText ht'), hs.entries_eq ha ht',
    ← address_ofEntries, ← address_ofEntries, ← address_ofEntries]
  rfl

theorem nested_brackets_parsed :
    parse "\n <[a]], >[]\t,<[x >[y],," = .ok { select := some "x >[y", update := some "", insert := none } := by
  have hl : ∀ c ∈ ['\n', ' '], Text.isBlank c = true := List.all_eq_true.mp (by decide)
  have ht : ∀ c ∈ [',', ','], isSeparator c = true := List.all_eq_true.mp (by decide)
  have h₁ : SpelledOut [(.select, "x >[y")] "<[x >[y]".toList := .single .select "x >[y"
  have h₂ : SpelledOut [(.update, ""), (.select, "x >[y")] ">[]\t,<[x >[y]".toList :=
    .cons .update "" (show ['\t', ','] ≠ [] by simp) (List.all_eq_true.mp (by decide)) h₁
  have h₃ : SpelledOut [(.select, "a]"), (.update, ""), (.select, "x >[y")] "<[a]], >[]\t,<[x >[y]".toList :=
    .cons .select "a]" (show [',', ' '] ≠ [] by simp) (List.all_eq_true.mp (by decide)) h₂
  have hp := parse_written hl h₃ ht (by decide)
  exact hp

end Binding

end ItemGateway
