import ItemGateway.CommandLine
import Mathlib.Data.List.Induction

namespace ItemGateway

inductive Command.Spelled : List String → Command → Prop
  | select (address : String) : Spelled ["select", address] (.select address)
  | update (address payload : String) : Spelled ["update", address, payload] (.update address payload)
  | insert (address payload : String) : Spelled ["insert", address, payload] (.insert address payload)
  | poll : Spelled ["poll"] .poll
  | items : Spelled ["items"] .items

inductive UsageFault.Names : List String → UsageFault → Prop
  | nothing : Names [] .noCommand
  | words {words : List String} (h : words ≠ []) : Names words (.unrecognized words)

theorem UsageFault.Names.unique {words : List String} {e f : UsageFault} (h : Names words e) (h' : Names words f) :
    e = f := by
  cases h with
  | nothing =>
    cases h' with
    | nothing => rfl
    | words hn => exact absurd rfl hn
  | words hn =>
    cases h' with
    | nothing => exact absurd rfl hn
    | words => rfl

namespace Command

theorem ofWords_cases (words : List String) :
    (∃ c, Spelled words c ∧ ofWords words = .ok c) ∨
      ∃ e, (∀ c, ¬Spelled words c) ∧ UsageFault.Names words e ∧ ofWords words = .error e := by
  unfold ofWords
  split
  · exact .inl ⟨_, .select _, rfl⟩
  · exact .inl ⟨_, .update _ _, rfl⟩
  · exact .inl ⟨_, .insert _ _, rfl⟩
  · exact .inl ⟨_, .poll, rfl⟩
  · exact .inl ⟨_, .items, rfl⟩
  · exact .inr ⟨_, nofun, .nothing, rfl⟩
  · next hs hu hi hp ht hn =>
    refine .inr ⟨_, ?_, .words hn, rfl⟩
    intro c hc
    cases hc with
    | select address => exact hs address rfl
    | update address payload => exact hu address payload rfl
    | insert address payload => exact hi address payload rfl
    | poll => exact hp rfl
    | items => exact ht rfl

theorem Spelled.ofWords_eq {words : List String} {c : Command} (h : Spelled words c) : ofWords words = .ok c := by
  cases h <;> rfl

theorem ofWords_eq_ok_iff {words : List String} {c : Command} : ofWords words = .ok c ↔ Spelled words c := by
  refine ⟨?_, Spelled.ofWords_eq⟩
  intro h
  rcases ofWords_cases words with ⟨d, hd, he⟩ | ⟨e, -, -, he⟩
  · rw [h] at he
    cases he
    exact hd
  · rw [h] at he
    cases he

theorem ofWords_eq_error_iff {words : List String} {e : UsageFault} :
    ofWords words = .error e ↔ (∀ c, ¬Spelled words c) ∧ UsageFault.Names words e := by
  rcases ofWords_cases words with ⟨c, hc, he⟩ | ⟨f, hn, hf, he⟩
  · rw [he]
    exact iff_of_false nofun fun h => h.1 c hc
  · rw [he, Except.error.injEq]
    constructor
    · rintro rfl
      exact ⟨hn, hf⟩
    · rintro ⟨-, he⟩
      exact hf.unique he

end Command

namespace CommandLine

def IsFlag (arg : String) : Prop :=
  arg = "--config" ∨ arg = "-c"

theorem isFlag_iff {arg : String} : isFlag arg = true ↔ IsFlag arg := by
  simp [isFlag, IsFlag]

/-- A path may be any text, a flag or a word of a command included. -/
inductive Woven : List String → List (String × String) → List String → Prop
  | nil : Woven [] [] []
  | word {words : List String} {pairs : List (String × String)} {args : List String} {word : String}
      (hw : ¬IsFlag word) (h : Woven words pairs args) : Woven (word :: words) pairs (word :: args)
  | pair {words : List String} {pairs : List (String × String)} {args : List String} {flag : String}
      (hf : IsFlag flag) (path : String) (h : Woven words pairs args) :
      Woven words ((flag, path) :: pairs) (flag :: path :: args)

def lastPath (path : String) (pairs : List (String × String)) : String :=
  (pairs.getLast?.map Prod.snd).getD path

theorem lastPath_cons (path : String) (pair : String × String) (pairs : List (String × String)) :
    lastPath path (pair :: pairs) = lastPath pair.2 pairs := by
  rw [lastPath, lastPath, List.getLast?_cons]
  cases pairs.getLast? <;> rfl

theorem scan_word {word : String} (h : ¬IsFlag word) (path : String) (args : List String) :
    scan path (word :: args) = (scan path args).map fun a => (a.1, word :: a.2) := by
  cases args <;> simp [scan, isFlag_iff, h]

theorem scan_pair {flag : String} (h : IsFlag flag) (path next : String) (args : List String) :
    scan path (flag :: next :: args) = scan next args := by
  simp [scan, isFlag_iff, h]

theorem scan_flag {flag : String} (h : IsFlag flag) (path : String) : scan path [flag] = none := by
  simp [scan, isFlag_iff, h]

namespace Woven

variable {words : List String} {pairs : List (String × String)} {args : List String}

theorem scan_append (h : Woven words pairs args) (path : String) (rest : List String) :
    scan path (args ++ rest) =
      (scan (lastPath path pairs) rest).map fun a => (a.1, words ++ a.2) := by
  induction h generalizing path with
  | nil => simp [lastPath]
  | word hw _ ih => simp [scan_word hw, ih, Function.comp_def]
  | pair hf next _ ih => simp [scan_pair hf, ih, lastPath_cons]

theorem scan_eq (h : Woven words pairs args) (path : String) :
    scan path args = some (lastPath path pairs, words) := by
  have hs := h.scan_append path []
  rwa [List.append_nil, scan, Option.map_some, List.append_nil] at hs

theorem scan_flag_end (h : Woven words pairs args) {flag : String} (hf : IsFlag flag) (path : String) :
    scan path (args ++ [flag]) = none := by
  rw [h.scan_append, scan_flag hf, Option.map_none]

end Woven

def EndsOnFlag (args : List String) : Prop :=
  ∃ words pairs front flag, Woven words pairs front ∧ IsFlag flag ∧ args = front ++ [flag]

theorem woven_or_endsOnFlag (args : List String) :
    (∃ words pairs, Woven words pairs args) ∨ EndsOnFlag args := by
  have word {arg : String} (ha : ¬IsFlag arg) {args : List String}
      (h : (∃ words pairs, Woven words pairs args) ∨ EndsOnFlag args) :
      (∃ words pairs, Woven words pairs (arg :: args)) ∨ EndsOnFlag (arg :: args) := by
    rcases h with ⟨words, pairs, hw⟩ | ⟨words, pairs, front, flag, hw, hf, rfl⟩
    · exact .inl ⟨_, pairs, hw.word ha⟩
    · exact .inr ⟨_, pairs, _, flag, hw.word ha, hf, rfl⟩
  -- A flag takes the argument after it along, so the list is taken apart by two.
  induction args using List.twoStepInduction with
  | nil => exact .inl ⟨[], [], .nil⟩
  | singleton arg =>
    by_cases ha : IsFlag arg
    · exact .inr ⟨[], [], [], arg, .nil, ha, rfl⟩
    · exact word ha (.inl ⟨[], [], .nil⟩)
  | cons_cons arg next args ih ihNext =>
    by_cases ha : IsFlag arg
    · rcases ih with ⟨words, pairs, hw⟩ | ⟨words, pairs, front, flag, hw, hf, rfl⟩
      · exact .inl ⟨words, _, hw.pair ha next⟩
      · exact .inr ⟨words, _, _, flag, hw.pair ha next, hf, rfl⟩
    · exact word ha (ihNext next)

theorem scan_eq_some_iff {path config : String} {words args : List String} :
    scan path args = some (config, words) ↔
      ∃ pairs, Woven words pairs args ∧ config = lastPath path pairs := by
  constructor
  · intro h
    rcases woven_or_endsOnFlag args with ⟨words, pairs, hw⟩ | ⟨words, pairs, front, flag, hw, hf, rfl⟩
    · rw [hw.scan_eq] at h
      cases h
      exact ⟨pairs, hw, rfl⟩
    · rw [hw.scan_flag_end hf] at h
      cases h
  · rintro ⟨pairs, hw, rfl⟩
    exact hw.scan_eq path

theorem scan_eq_none_iff {path : String} {args : List String} : scan path args = none ↔ EndsOnFlag args := by
  constructor
  · intro h
    rcases woven_or_endsOnFlag args with ⟨words, pairs, hw⟩ | he
    · rw [hw.scan_eq] at h
      cases h
    · exact he
  · rintro ⟨words, pairs, front, flag, hw, hf, rfl⟩
    exact hw.scan_flag_end hf path

theorem parse_eq_ok_iff {path : String} {args : List String} {line : CommandLine} :
    parse path args = .ok line ↔
      ∃ words, scan path args = some (line.config, words) ∧ Command.ofWords words = .ok line.command := by
  unfold parse
  rcases scan path args with _ | ⟨config, words⟩
  · simp
  · rcases hw : Command.ofWords words with e | c
    · simp [Except.map, hw]
    · obtain ⟨config', c'⟩ := line
      simp [Except.map, hw]

theorem parse_eq_error_iff {path : String} {args : List String} {e : UsageFault} :
    parse path args = .error e ↔
      scan path args = none ∧ e = .pathMissing ∨
        ∃ config words, scan path args = some (config, words) ∧ Command.ofWords words = .error e := by
  unfold parse
  rcases scan path args with _ | ⟨config, words⟩
  · simp [eq_comm]
  · rcases hw : Command.ofWords words with f | c <;> simp [Except.map, hw]

/-- Flags with their paths may stand anywhere between the words of a command, and the last path counts. -/
theorem command_line_grammar (defaultPath : String) (args : List String) :
    (∀ line, parse defaultPath args = .ok line ↔
      ∃ words pairs, Woven words pairs args ∧ Command.Spelled words line.command ∧
        line.config = lastPath defaultPath pairs) ∧
      (parse defaultPath args = .error .pathMissing ↔ EndsOnFlag args) ∧
      (∀ e, e ≠ .pathMissing → (parse defaultPath args = .error e ↔
        ∃ words pairs, Woven words pairs args ∧ (∀ c, ¬Command.Spelled words c) ∧ UsageFault.Names words e)) ∧
      ∀ words, (UsageFault.unrecognized words).message =
        "unrecognized arguments: " ++ String.intercalate " " words := by
  refine ⟨?_, ?_, ?_, fun _ => rfl⟩
  · intro line
    simp only [parse_eq_ok_iff, scan_eq_some_iff, Command.ofWords_eq_ok_iff]
    constructor
    · rintro ⟨words, ⟨pairs, hw, hp⟩, hc⟩
      exact ⟨words, pairs, hw, hc, hp⟩
    · rintro ⟨words, pairs, hw, hc, hp⟩
      exact ⟨words, ⟨pairs, hw, hp⟩, hc⟩
  · rw [parse_eq_error_iff, scan_eq_none_iff]
    refine ⟨?_, fun h => .inl ⟨h, rfl⟩⟩
    rintro (⟨h, -⟩ | ⟨config, words, -, he⟩)
    · exact h
    · cases (Command.ofWords_eq_error_iff.mp he).2
  · intro e he
    simp only [parse_eq_error_iff, he, and_false, false_or, scan_eq_some_iff, Command.ofWords_eq_error_iff]
    constructor
    · rintro ⟨config, words, ⟨pairs, hw, -⟩, hn, hl⟩
      exact ⟨words, pairs, hw, hn, hl⟩
    · rintro ⟨words, pairs, hw, hn, hl⟩
      exact ⟨_, words, ⟨pairs, hw, rfl⟩, hn, hl⟩

example : parse "bridge.toml" ["insert", "-c", "--config", "t", "5", "-c", "poll"] =
    .ok ⟨"poll", .insert "t" "5"⟩ := by decide

end CommandLine

end ItemGateway
