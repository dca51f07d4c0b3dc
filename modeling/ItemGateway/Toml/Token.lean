namespace ItemGateway.Toml

inductive Token
  | blank (text : String)
  | newline
  | comment
  | equals
  | period
  | comma
  | colon
  | plus
  | leftBrace
  | rightBrace
  | leftBracket
  | rightBracket
  | bare (text : String)
  | quoted (text : String) (multiline : Bool)
  deriving DecidableEq, Repr

namespace Token

def isBlank (c : Char) : Bool :=
  c = ' ' || c = '\t'

def isBare (c : Char) : Bool :=
  c.isAlphanum || c = '-' || c = '_'

def isPlain (c : Char) : Bool :=
  c = '\t' || ' ' ≤ c

def skipBlank : List Token → List Token
  | blank _ :: ts => ts
  | ts => ts

def eat? (t : Token) : List Token → Option (List Token)
  | u :: ts => if u = t then some ts else none
  | [] => none

theorem length_skipBlank_le (ts : List Token) : (skipBlank ts).length ≤ ts.length := by
  unfold skipBlank
  split <;> simp

theorem length_lt_of_eat? {t : Token} {ts rest : List Token} (h : t.eat? ts = some rest) :
    rest.length < ts.length := by
  unfold eat? at h
  split at h
  · split at h <;> simp_all
  · simp at h

def hexValue? (c : Char) : Option Nat :=
  if c.isDigit then some (c.toNat - '0'.toNat)
  else if 'a' ≤ c ∧ c ≤ 'f' then some (c.toNat - 'a'.toNat + 10)
  else if 'A' ≤ c ∧ c ≤ 'F' then some (c.toNat - 'A'.toNat + 10)
  else none

def codePoint? : Nat → Nat → List Char → Option (List Char × List Char)
  | 0, acc, s => if acc.isValidChar then some ([Char.ofNat acc], s) else none
  | _ + 1, _, [] => none
  | n + 1, acc, c :: s =>
    match hexValue? c with
    | some d => codePoint? n (16 * acc + d) s
    | none => none

def isGap (c : Char) : Bool :=
  isBlank c || c = '\n'

def foldLine (s : List Char) : Option (List Char × List Char) :=
  match s.dropWhile isBlank with
  | '\n' :: rest => some ([], rest.dropWhile isGap)
  | _ => none

def escape? (multiline : Bool) : List Char → Option (List Char × List Char)
  | '"' :: s => some (['"'], s)
  | '\\' :: s => some (['\\'], s)
  | 'b' :: s => some (['\x08'], s)
  | 'f' :: s => some (['\x0c'], s)
  | 'n' :: s => some (['\n'], s)
  | 'r' :: s => some (['\r'], s)
  | 't' :: s => some (['\t'], s)
  | 'u' :: s => codePoint? 4 0 s
  | 'U' :: s => codePoint? 8 0 s
  | s => if multiline then foldLine s else none

theorem length_le_of_codePoint? {n acc : Nat} {s t rest : List Char}
    (h : codePoint? n acc s = some (t, rest)) : rest.length ≤ s.length := by
  induction n generalizing acc s with
  | zero =>
    simp only [codePoint?] at h
    split at h <;> simp_all
  | succ n ih =>
    cases s with
    | nil => simp [codePoint?] at h
    | cons c s =>
      simp only [codePoint?] at h
      split at h
      · exact Nat.le_succ_of_le (ih h)
      · simp at h

theorem length_dropWhile_le (p : Char → Bool) (s : List Char) :
    (s.dropWhile p).length ≤ s.length :=
  (List.dropWhile_sublist p).length_le

theorem length_le_of_foldLine {s t rest : List Char} (h : foldLine s = some (t, rest)) :
    rest.length ≤ s.length := by
  unfold foldLine at h
  split at h
  · next r hr =>
    obtain ⟨-, rfl⟩ := Prod.mk.inj (Option.some.inj h)
    have h₁ := length_dropWhile_le isBlank s
    have h₂ := length_dropWhile_le isGap r
    rw [hr, List.length_cons] at h₁
    omega
  · simp at h

theorem length_le_of_escape? {multiline : Bool} {s t rest : List Char}
    (h : escape? multiline s = some (t, rest)) : rest.length ≤ s.length := by
  unfold escape? at h
  split at h
  case h_8 | h_9 => exact Nat.le_succ_of_le (length_le_of_codePoint? h)
  case h_10 =>
    split at h
    · exact length_le_of_foldLine h
    · simp at h
  all_goals
    obtain ⟨-, rfl⟩ := Prod.mk.inj (Option.some.inj h)
    simp

structure Quoting where
  mark : Char
  escapes : Bool
  multiline : Bool

/-- Three marks end a text of many lines; one or two more before them belong to it. -/
def ending? (q : Quoting) (s : List Char) : Option (List Char × List Char) :=
  if !q.multiline then some ([], s)
  else
    match s with
    | a :: b :: rest =>
      if a = q.mark ∧ b = q.mark then
        let extra := (rest.takeWhile (· = q.mark)).take 2
        some (extra, rest.drop extra.length)
      else none
    | _ => none

def body? (q : Quoting) : List Char → Option (List Char × List Char)
  | [] => none
  | c :: s =>
    if c = q.mark then
      match ending? q s with
      | some (t, rest) => some (t, rest)
      | none => (body? q s).map fun (t, rest) => (c :: t, rest)
    else if c = '\\' ∧ q.escapes then
      match _h : escape? q.multiline s with
      | some (t, r) => (body? q r).map fun (u, rest) => (t ++ u, rest)
      | none => none
    else if (isPlain c ∧ c ≠ '\x7f') ∨ (c = '\n' ∧ q.multiline) then
      (body? q s).map fun (t, rest) => (c :: t, rest)
    else none
termination_by s => s.length
decreasing_by
  · simp
  · have := length_le_of_escape? ‹_›
    simp only [List.length_cons]
    omega
  · simp

def quoted? (mark : Char) : List Char → Option (Token × List Char)
  | a :: b :: s =>
    if a = mark ∧ b = mark then
      let s := match s with
        | '\n' :: s => s
        | s => s
      (body? ⟨mark, mark = '"', true⟩ s).map fun (t, rest) => (.quoted (String.ofList t) true, rest)
    else single mark (a :: b :: s)
  | s => single mark s
where
  single (mark : Char) (s : List Char) : Option (Token × List Char) :=
    (body? ⟨mark, mark = '"', false⟩ s).map fun (t, rest) => (.quoted (String.ofList t) false, rest)

def mark? : Char → Option Token
  | '\n' => some .newline
  | '=' => some .equals
  | '.' => some .period
  | ',' => some .comma
  | ':' => some .colon
  | '+' => some .plus
  | '\x7b' => some .leftBrace
  | '\x7d' => some .rightBrace
  | '[' => some .leftBracket
  | ']' => some .rightBracket
  | _ => none

def next? (c : Char) (s : List Char) : Option (Token × List Char) :=
  if isBlank c then some (.blank (String.ofList (c :: s.takeWhile isBlank)), s.dropWhile isBlank)
  else if c = '#' then some (.comment, s.dropWhile isPlain)
  else if c = '"' ∨ c = '\'' then quoted? c s
  else if isBare c then some (.bare (String.ofList (c :: s.takeWhile isBare)), s.dropWhile isBare)
  else (mark? c).map (·, s)

theorem length_le_of_body? {q : Quoting} {s t rest : List Char}
    (h : body? q s = some (t, rest)) : rest.length ≤ s.length := by
  fun_induction body? q s generalizing t with
  | case1 => simp at h
  | case2 s u r he =>
    obtain ⟨-, rfl⟩ := Prod.mk.inj (Option.some.inj h)
    have : r.length ≤ s.length := by
      unfold ending? at he
      split at he
      · simp_all
      · split at he
        · split at he
          · obtain ⟨-, rfl⟩ := Prod.mk.inj (Option.some.inj he)
            simp only [List.length_drop, List.length_cons]
            omega
          · simp at he
        · simp at he
    exact Nat.le_succ_of_le this
  | case3 s _ ih =>
    obtain ⟨⟨u, r⟩, hs, he⟩ := Option.map_eq_some_iff.1 h
    obtain ⟨-, rfl⟩ := Prod.mk.inj he
    exact Nat.le_succ_of_le (ih hs)
  | case4 c s hc he u r hr ih =>
    obtain ⟨⟨v, r'⟩, hs, he⟩ := Option.map_eq_some_iff.1 h
    obtain ⟨-, rfl⟩ := Prod.mk.inj he
    have h₁ := ih hs
    have h₂ := length_le_of_escape? hr
    simp only [List.length_cons]
    omega
  | case5 => simp at h
  | case6 c s hc he hp ih =>
    obtain ⟨⟨u, r⟩, hs, he⟩ := Option.map_eq_some_iff.1 h
    obtain ⟨-, rfl⟩ := Prod.mk.inj he
    exact Nat.le_succ_of_le (ih hs)
  | case7 => simp at h

theorem length_le_of_single {mark : Char} {s rest : List Char} {t : Token}
    (h : quoted?.single mark s = some (t, rest)) : rest.length ≤ s.length := by
  obtain ⟨⟨u, r⟩, hs, he⟩ := Option.map_eq_some_iff.1 h
  obtain ⟨-, rfl⟩ := Prod.mk.inj he
  exact length_le_of_body? hs

theorem length_le_of_quoted? {mark : Char} {s rest : List Char} {t : Token}
    (h : quoted? mark s = some (t, rest)) : rest.length ≤ s.length := by
  unfold quoted? at h
  split at h
  · next a b s =>
    split at h
    · obtain ⟨⟨u, r⟩, hs, he⟩ := Option.map_eq_some_iff.1 h
      obtain ⟨-, rfl⟩ := Prod.mk.inj he
      have := length_le_of_body? hs
      split at this <;> simp only [List.length_cons] at * <;> omega
    · exact length_le_of_single h
  · exact length_le_of_single h

theorem length_le_of_next? {c : Char} {s rest : List Char} {t : Token}
    (h : next? c s = some (t, rest)) : rest.length ≤ s.length := by
  unfold next? at h
  split at h
  · obtain ⟨-, rfl⟩ := Prod.mk.inj (Option.some.inj h)
    exact length_dropWhile_le _ _
  split at h
  · obtain ⟨-, rfl⟩ := Prod.mk.inj (Option.some.inj h)
    exact length_dropWhile_le _ _
  split at h
  · exact length_le_of_quoted? h
  split at h
  · obtain ⟨-, rfl⟩ := Prod.mk.inj (Option.some.inj h)
    exact length_dropWhile_le _ _
  · obtain ⟨u, hu, he⟩ := Option.map_eq_some_iff.1 h
    obtain ⟨-, rfl⟩ := Prod.mk.inj he
    exact Nat.le_refl _

def ofChars? : List Char → Option (List Token)
  | [] => some []
  | c :: s =>
    match _h : next? c s with
    | some (t, rest) => (ofChars? rest).map (t :: ·)
    | none => none
termination_by s => s.length
decreasing_by
  have := length_le_of_next? ‹_›
  simp only [List.length_cons]
  omega

def joinLineEnds : List Char → List Char
  | '\r' :: '\n' :: s => '\n' :: joinLineEnds s
  | c :: s => c :: joinLineEnds s
  | [] => []

def dropByteOrderMark : List Char → List Char
  | '\ufeff' :: s => s
  | s => s

def ofText? (text : String) : Option (List Token) :=
  ofChars? (joinLineEnds (dropByteOrderMark text.toList))

end Token

end ItemGateway.Toml
