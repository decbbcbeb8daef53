import ProxyControl.PortSetter
import ProxyControl.Preference.Backend
import ProxyControl.Proofs.CommandLine.Numbers
import ProxyControl.Proofs.Text.Decoding

/-!
# The port argument of the port setter

Words that are texts and do not begin with a hyphen are positional: the first of them is the port,
and the others are kept as texts that nothing looks at.  The level after some words is written down
from the words alone (`waiting`, `gathered`), and feeding one more word goes from one to the next.

A command line that is rejected is over before the preferences are touched, whatever its words are.

Main results:

- Theorem `PortSetter.read_texts`: the request of such words is decided by the first of them.
- Theorem `PortSetter.accepts_exactly_ports`: the texts that are accepted as a port, and what a
  command line that is rejected does.
-/

namespace ProxyControl
namespace PortSetter

open CommandLine Text

/-! ## Words without a hyphen in front -/

/-- A text that does not begin with a hyphen. -/
def IsPlain (text : String) : Prop :=
  text.toList.head? ≠ some '-'

instance (text : String) : Decidable (IsPlain text) :=
  inferInstanceAs (Decidable (_ ≠ _))

/-- Only the hyphen is encoded with the byte of a hyphen in front. -/
theorem eq_of_utf8EncodeChar_hyphen {c : Char} {bytes : List UInt8}
    (h : String.utf8EncodeChar c = hyphen :: bytes) : c = '-' := by
  have hbytes : bytes = [] := by
    rcases Utf8.length_of_utf8EncodeChar h with ⟨-, hlength⟩ | ⟨hlead, -⟩ | ⟨hlead, -⟩ | ⟨hlead, -⟩
    · exact List.length_eq_zero_iff.1 hlength
    · exact absurd hlead (by decide)
    · exact absurd hlead (by decide)
    · exact absurd hlead (by decide)
  subst hbytes
  exact Char.toNat_inj.1 (Utf8.utf8EncodeChar_eq_one_iff.1 h).2

/-- The word of a text that does not begin with a hyphen is no flag. -/
theorem IsPlain.shapeOf_encode {text : String} (h : IsPlain text) :
    shapeOf (Utf8.encode text) = .plain := by
  unfold shapeOf
  split
  case h_1 a b rest hword =>
    rw [if_neg]
    rintro rfl
    refine h ?_
    rw [Utf8.encode] at hword
    cases hchars : text.toList with
    | nil =>
        rw [hchars] at hword
        cases hword
    | cons c cs =>
        rw [hchars, List.flatMap_cons] at hword
        cases hbytes : String.utf8EncodeChar c with
        | nil => exact absurd hbytes String.utf8EncodeChar_ne_nil
        | cons byte bytes =>
            rw [hbytes, List.cons_append, List.cons.injEq] at hword
            obtain ⟨rfl, -⟩ := hword
            rw [List.head?_cons, eq_of_utf8EncodeChar_hyphen hbytes]
  case h_2 => rfl

/-! ## Levels -/

/-- The positional argument that is the port. -/
def portArgument : Positional :=
  ⟨portName, .port, false, true⟩

/-- The positional argument that takes all other words. -/
def otherWords : Positional :=
  ⟨"REST", .text, true, false⟩

/-- The level after the word of the port. -/
def waiting (word : Word) : Level :=
  { command := grammar, pending := some ⟨.positional portArgument, [word]⟩, position := 1 }

/-- The level after a port and one or more other words. -/
def gathered (port : Nat) (words : List Word) : Level :=
  { command := grammar
    pending := some ⟨.positional otherWords, words⟩
    given := [(portName, [.number port])]
    position := 1 }

/-- A plain word is positional where there are no subcommands. -/
theorem feed_of_plain {l : Level} (hsub : l.command.subcommands = [])
    (htrailing : l.trailing = false)
    (hawaiting : l.awaiting = false) {word : Word} (h : shapeOf word = .plain) (rest : List Word) :
    l.feed word rest = (l.feedPositional word).map .stay := by
  have hnone : l.subcommand? word = none := by
    rw [Level.subcommand?, hsub]
    cases Utf8.decode? word with
    | none => rfl
    | some name => rfl
  have hnames : l.namesCommand word = false := by
    rw [Level.namesCommand, hnone, hsub]
    rfl
  simp only [Level.feed, htrailing, hawaiting, hnone, hnames, h, Bool.false_eq_true, if_false,
    Bool.not_false, Bool.and_false]

/-- The first word is held back as the port. -/
theorem feedPositional_start (word : Word) :
    Level.feedPositional { command := grammar } word = .ok (waiting word) :=
  rfl

/-- The port that a text is taken for. -/
def taken (text : String) : Except Stop Nat :=
  match readPort text.toList with
  | .ok port => .ok port
  | .error fault => .error (.invalidValue text portArgument.display fault.message)

theorem convert_port (text : String) :
    ValueKind.port.convert portArgument.display (Utf8.encode text) =
      (taken text).map .number := by
  simp only [ValueKind.convert, Utf8.decode?_encode, taken]
  cases readPort text.toList with
  | error fault => rfl
  | ok port => rfl

/-- Words that are texts are texts for the argument that takes all other words. -/
theorem mapM_convert_text (texts : List String) :
    (texts.map Utf8.encode).mapM (ValueKind.text.convert otherWords.display) =
      .ok (texts.map Value.text) := by
  induction texts with
  | nil => rfl
  | cons text texts ih =>
      have htext : ValueKind.text.convert otherWords.display (Utf8.encode text) =
          .ok (.text text) := by
        simp only [ValueKind.convert, Utf8.decode?_encode]
      rw [List.map_cons, List.mapM_cons, htext, ih]
      rfl

/-- The word that is held back as the port is looked at. -/
theorem resolve_waiting (text : String) :
    (waiting (Utf8.encode text)).resolve = (taken text).map fun port =>
      { command := grammar, given := [(portName, [.number port])], position := 1 } := by
  have hwords : [Utf8.encode text].mapM (portArgument.kind.convert portArgument.display) =
      (taken text).map fun port => [.number port] := by
    rw [List.mapM_cons, show portArgument.kind = .port from rfl, convert_port]
    cases taken text with
    | error stop => rfl
    | ok port => rfl
  simp only [waiting, Level.resolve, Level.acceptPositional, hwords]
  cases taken text with
  | error stop => rfl
  | ok port => rfl

/-- The second word makes the first one be looked at. -/
theorem feedPositional_waiting (text : String) (word : Word) :
    (waiting (Utf8.encode text)).feedPositional word =
      (taken text).map fun port => gathered port [word] := by
  have hother : ¬(otherWords = portArgument ∧ otherWords.many = true) := by decide
  have hnext : (waiting (Utf8.encode text)).nextPositional? = some otherWords := rfl
  have hpending : (waiting (Utf8.encode text)).pending =
      some ⟨.positional portArgument, [Utf8.encode text]⟩ := rfl
  simp only [Level.feedPositional, hnext, hpending, if_neg hother, resolve_waiting]
  cases taken text with
  | error stop => rfl
  | ok port => rfl

/-- All further words are held back. -/
theorem feedPositional_gathered (port : Nat) (words : List Word) (word : Word) :
    (gathered port words).feedPositional word = .ok (gathered port (words ++ [word])) :=
  rfl

/-- The other words are kept as texts. -/
theorem close_gathered (port : Nat) (texts : List String) :
    (gathered port (texts.map Utf8.encode)).close false =
      .ok { command := grammar
            given := [(otherWords.name, texts.map .text), (portName, [.number port])]
            position := 1 } := by
  have hwords := mapM_convert_text texts
  have hresolve : (gathered port (texts.map Utf8.encode)).resolve =
      .ok { command := grammar
            given := [(otherWords.name, texts.map .text), (portName, [.number port])]
            position := 1 } := by
    simp only [gathered, Level.resolve, Level.acceptPositional,
      show otherWords.kind = .text from rfl, hwords]
    rfl
  rw [Level.close, hresolve]
  rfl

/-! ## Whole command lines -/

theorem readFrom_cons {l : Level} (hsub : l.command.subcommands = [])
    (htrailing : l.trailing = false)
    (hawaiting : l.awaiting = false) {text : String} (h : IsPlain text) (rest : List Word) :
    readFrom l (Utf8.encode text :: rest) =
      (l.feedPositional (Utf8.encode text)).bind fun l => readFrom l rest := by
  rw [readFrom, feed_of_plain hsub htrailing hawaiting h.shapeOf_encode]
  cases l.feedPositional (Utf8.encode text) with
  | error stop => rfl
  | ok l => rfl

/-- The words behind the port and one more are gathered. -/
theorem readFrom_gathered (port : Nat) (seen : List String) {texts : List String}
    (hplain : ∀ word ∈ texts, IsPlain word) :
    readFrom (gathered port (seen.map Utf8.encode)) (texts.map Utf8.encode) =
      .ok [⟨grammar.name,
        [(otherWords.name, (seen ++ texts).map .text), (portName, [.number port])]⟩] := by
  induction texts generalizing seen with
  | nil =>
      rw [List.map_nil, readFrom, close_gathered, List.append_nil]
      rfl
  | cons text texts ih =>
      obtain ⟨htext, htexts⟩ := List.forall_mem_cons.1 hplain
      have hnext := ih (seen ++ [text]) htexts
      rw [List.map_append, List.append_assoc] at hnext
      rw [List.map_cons, readFrom_cons rfl rfl rfl htext, feedPositional_gathered]
      exact hnext

/-- The words behind the port change nothing about it. -/
theorem readFrom_waiting (text : String) {others : List String}
    (hplain : ∀ word ∈ others, IsPlain word) :
    readFrom (waiting (Utf8.encode text)) (others.map Utf8.encode) =
      (taken text).map fun port =>
        let given : Given := [(portName, [.number port])]
        [⟨grammar.name,
          if others.isEmpty then given else (otherWords.name, others.map .text) :: given⟩] := by
  cases others with
  | nil =>
      rw [List.map_nil, readFrom, Level.close, resolve_waiting]
      cases taken text with
      | error stop => rfl
      | ok port => rfl
  | cons other others =>
      obtain ⟨hother, hothers⟩ := List.forall_mem_cons.1 hplain
      rw [List.map_cons, readFrom_cons rfl rfl rfl hother, feedPositional_waiting]
      cases taken text with
      | error stop => rfl
      | ok port => exact readFrom_gathered port [other] hothers

/-- The request of words that are texts and do not begin with a hyphen. -/
theorem read_texts {text : String} {others : List String}
    (hplain : ∀ word ∈ text :: others, IsPlain word) :
    read ((text :: others).map Utf8.encode) =
      match readPort text.toList with
      | .ok port => .setPort (UInt16.ofNat port)
      | .error _ => .reject (.argument "invalid port") := by
  obtain ⟨htext, hothers⟩ := List.forall_mem_cons.1 hplain
  rw [read, Command.read, List.map_cons, readFrom_cons rfl rfl rfl htext, feedPositional_start]
  simp only [Except.bind, readFrom_waiting text hothers, taken]
  cases readPort text.toList with
  | error fault => rfl
  | ok port => cases others with
    | nil => rfl
    | cons other others => rfl

/-- The texts of a port: one or more decimal digits, perhaps behind a plus sign. -/
def SpellsPort (cs : List Char) (port : UInt16) : Prop :=
  ∃ digits, Json.AreDigits digits ∧ (cs = digits ∨ cs = '+' :: digits) ∧
    Nat.ofDigitChars 10 digits 0 = port.toNat

/-- Without a minus sign a port is read from its texts. -/
theorem readPort_eq_ok_iff_spellsPort {text : String} (h : IsPlain text) {port : UInt16} :
    readPort text.toList = .ok port.toNat ↔ SpellsPort text.toList port := by
  rw [readPort_eq_ok_iff]
  constructor
  · rintro ⟨hspells, -⟩
    rw [IsPlain] at h
    generalize text.toList = cs at h hspells
    generalize hvalue : (port.toNat : Int) = value at hspells
    cases hspells with
    | plain hdigits => exact ⟨_, hdigits, .inl rfl, (Int.ofNat.inj hvalue).symm⟩
    | plus hdigits => exact ⟨_, hdigits, .inr rfl, (Int.ofNat.inj hvalue).symm⟩
    | minus => exact absurd rfl h
  · rintro ⟨digits, hdigits, htext, hvalue⟩
    have hport := port.toNat_lt
    refine ⟨?_, by omega⟩
    rw [← hvalue]
    rcases htext with htext | htext
    · rw [htext]
      exact .plain hdigits
    · rw [htext]
      exact .plus hdigits

/-- A port is read in only one way. -/
theorem readPort_eq_ok_iff_ofNat {cs : List Char} {n : Nat} (h : readPort cs = .ok n)
    {port : UInt16} : UInt16.ofNat n = port ↔ n = port.toNat := by
  obtain ⟨-, hle⟩ := readPort_eq_ok_iff.1 h
  rw [← UInt16.toNat_inj, UInt16.toNat_ofNat', Nat.mod_eq_of_lt (by omega)]

/-- Behind a first word that is a text and does not begin with a hyphen, other such words do not
count: a port is set if the first word is one, and otherwise it is no valid port.  A command line
that is rejected, for this or another fault, calls nothing. -/
theorem accepts_exactly_ports {text : String} {others : List String}
    (hplain : ∀ word ∈ text :: others, IsPlain word) :
    (∀ port, read ((text :: others).map Utf8.encode) = .setPort port ↔
      SpellsPort text.toList port) ∧
    ((∀ port, ¬ SpellsPort text.toList port) →
      read ((text :: others).map Utf8.encode) = .reject (.argument "invalid port")) ∧
    ∀ words error, read words = .reject error → ∀ {σ α ς : Type} (p : SystemPreferences σ α ς) st,
      run p.recorded words st = ({ stdout := fatal error }, st) := by
  have htext := (List.forall_mem_cons.1 hplain).1
  refine ⟨fun port => ?_, fun hnone => ?_, fun words error h _ _ _ p st => by rw [run, h]⟩
  · rw [read_texts hplain, ← readPort_eq_ok_iff_spellsPort htext]
    cases hread : readPort text.toList with
    | error fault => simp only [reduceCtorEq]
    | ok n =>
        simp only [Request.setPort.injEq, Except.ok.injEq]
        exact readPort_eq_ok_iff_ofNat hread
  · rw [read_texts hplain]
    cases hread : readPort text.toList with
    | error fault => rfl
    | ok n =>
        refine absurd ?_ (hnone (UInt16.ofNat n))
        rw [← readPort_eq_ok_iff_spellsPort htext, hread,
          ← (readPort_eq_ok_iff_ofNat hread).1 rfl]

/-- A plus sign and zeros in front are accepted, and a blank is not. -/
theorem accepts_exactly_ports_eighty :
    ((∀ word ∈ ["+0080", "no port"], IsPlain word) ∧
      read (["+0080", "no port"].map Utf8.encode) = .setPort 80) ∧
    (∀ word ∈ [" 80"], IsPlain word) ∧
      read ([" 80"].map Utf8.encode) = .reject (.argument "invalid port") := by
  have hplus : ∀ word ∈ ["+0080", "no port"], IsPlain word := by decide
  have hblank : ∀ word ∈ [" 80"], IsPlain word := by decide
  refine ⟨⟨hplus, ?_⟩, hblank, ?_⟩
  · refine ((accepts_exactly_ports hplus).1 80).2 ⟨"0080".toList, ⟨?_, ?_⟩, .inr ?_, ?_⟩
    · decide
    · simp
    · decide
    · decide
  · refine (accepts_exactly_ports hblank).2.1 ?_
    rintro port ⟨digits, hdigits, rfl | htext, -⟩
    · exact absurd (hdigits.digits ' ' (by decide)) (by decide)
    · exact absurd (congrArg List.head? htext) (by simp)

end PortSetter
end ProxyControl
