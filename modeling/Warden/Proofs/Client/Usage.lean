/-
Command lines that ask for a given command.

# Contents

`Asks` says which words after the options stand for a command. It reads
no argument: a text that could be an option passes only behind two hyphens
(`Spells`), and behind them any text passes. The reader agrees with it
(`of_asks`), which goes back to one fact about the values of a subcommand
(`values_of_spells`), whether it takes one of them or any number.
-/
import Warden.Client.Usage

namespace Warden.Client

-- =================================================================== words

/-- A text that is taken for no option. -/
def IsWord (text : String) : Prop := text.toList.head? = some '-' → text = "-"

instance : DecidablePred IsWord := fun _ => inferInstanceAs (Decidable (_ → _))

/-- A word is taken for no option. -/
theorem argument_of_isWord {text : String} (hword : IsWord text) : Argument.of text = .word := by
  unfold Argument.of
  split
  case h_4 => rfl
  all_goals
    rename_i hchars
    have h := hword (by rw [hchars]; rfl)
    rw [h] at hchars
    cases hchars

/-- How words are written to be taken literally: each as it is, and from
two hyphens on whatever they are. -/
inductive Spells : List String → List String → Prop
  | nil : Spells [] []
  | word {w : String} {words given : List String} (hword : IsWord w) (h : Spells words given) :
      Spells (w :: words) (w :: given)
  | marked (words : List String) : Spells words ("--" :: words)

/-- A subcommand takes the words that its arguments spell. -/
theorem values_of_spells {words given : List String} (h : Spells words given) :
    ∀ limit : Option Nat, (∀ n ∈ limit, words.length ≤ n) → values limit given = .ok words := by
  induction h with
  | nil => intro _ _; rfl
  | marked words =>
      intro limit hlimit
      cases limit with
      | none => rfl
      | some n => exact if_pos (hlimit n rfl)
  | word hword h ih =>
      intro limit hlimit
      have hfirst := argument_of_isWord hword
      cases limit with
      | none =>
          have hrest := ih none fun _ hn => nomatch hn
          simp only [values, hfirst, hrest]
          rfl
      | some n =>
          cases n with
          | zero => exact absurd (hlimit 0 rfl) (by simp)
          | succ m =>
              have hrest := ih (some m) fun _ hn =>
                Option.some.inj hn ▸ Nat.le_of_succ_le_succ (hlimit (m + 1) rfl)
              simp only [values, hfirst, hrest]
              rfl

-- ================================================================= options

/-- The options that tell the client where the interface is, and the key. -/
def options (url key : String) : List String := ["--url=" ++ url, "--key=" ++ key]

/-- An option with its value after an equals sign. -/
theorem argument_of_setting (name written : String) (hwritten : "--" ++ name ++ "=" = written)
    (hname : '=' ∉ name.toList) (value : String) :
    Argument.of (written ++ value) = .long name.toList (some value.toList) := by
  have hchars : (written ++ value).toList = '-' :: '-' :: (name.toList ++ '=' :: value.toList) := by
    simp [← hwritten]
  have hall : ∀ c ∈ name.toList, decide (c ≠ '=') = true := fun c hc =>
    decide_eq_true fun heq => hname (heq ▸ hc)
  unfold Argument.of
  rw [hchars]
  split
  case h_1 heq => simp at heq
  case h_2 heq =>
    obtain rfl := (List.cons.inj (List.cons.inj heq).2).2
    rw [List.takeWhile_append_of_pos hall, List.dropWhile_append_of_pos hall]
    simp
  case h_3 hnot heq =>
    obtain ⟨rfl, -⟩ := List.cons.inj (List.cons.inj heq).2
    exact absurd rfl hnot
  case h_4 hnot => exact absurd rfl (hnot _ _)

variable {url key : String}

/-- After address and key, the rest belongs to the subcommand. -/
theorem of_options {subcommand : String} (hsub : IsWord subcommand) (words : List String) :
    Invocation.of (options url key ++ subcommand :: words)
      = Settings.invoke ⟨some url, some key⟩ subcommand words := by
  have hurl := argument_of_setting "url" "--url=" (by decide) (by decide) url
  have hkey := argument_of_setting "key" "--key=" (by decide) (by decide) key
  show read {} (("--url=" ++ url) :: ("--key=" ++ key) :: subcommand :: words) = _
  simp only [read, hurl, hkey, argument_of_isWord hsub, Argument.asksHelp, Setting.of?,
    Option.map_some, String.ofList_toList, if_true, Settings.set]
  rfl

-- ================================================================ commands

/-- What stands after the options where a command is asked for. -/
inductive Asks : Command → List String → Prop
  | groups {user : String} {given : List String} (h : Spells [user] given) :
      Asks (.groups user) ("groups" :: given)
  | refresh {identifier : String} {args given : List String}
      (h : Spells (identifier :: args) given) :
      Asks (.refresh identifier args) ("refresh" :: given)

/-- A command line that asks for a command is read as it. -/
theorem of_asks {c : Command} {line : List String} (h : Asks c line) :
    Invocation.of (options url key ++ line) = .ok ⟨url, key, c⟩ := by
  cases h with
  | @groups user given h =>
      have hvalues : values (some 1) given = .ok [user] :=
        values_of_spells h _ fun _ hn => Option.some.inj hn ▸ Nat.le_refl 1
      rw [of_options (by decide), Settings.invoke, Command.of, hvalues]
      rfl
  | @refresh identifier args given h =>
      have hvalues : values none given = .ok (identifier :: args) :=
        values_of_spells h none fun _ hn => nomatch hn
      rw [of_options (by decide), Settings.invoke, Command.of, hvalues]
      rfl

end Warden.Client
