import SwiftExistential.Proofs.Shell.Quoting

/-!
# Tokens behind each other

How a script that is put together from arguments and delimiters falls into tokens. A token depends
on what is wanted where it stands, but only line ends and words can mean something else then
(`Passes`). Behind a blank, the same token is read as without it (`run_readToken_space`). An
argument is a word on its own (`run_readToken_argument`), since neither it nor what stands around it
can go on with another word.

A token that was read may be pushed back and read again under another want. So there are two forms
of most lemmas: for a source that holds characters ahead, and for one that holds a token.
-/

set_option autoImplicit false

namespace SwiftExistential.Shell

/-- What is left of a script behind a token that has been pushed back. -/
def Source.holding (token : Token) (aliases : List (Text × Text)) (line : Nat) (t : Text) : Source :=
  ⟨t, line, 0, some token, aliases, []⟩

namespace Reader

variable {aliases : List (Text × Text)} {line : Nat} {r t : Text} {token : Token} {wants : Wants}
variable (commands : Reader Command)

/-! ## Tokens as they are wanted -/

theorem run_pushBack : (pushBack token).run (.plain aliases line t) =
    .ok ⟨⟩ (.holding token aliases line t) := rfl

theorem run_leaveAliases : leaveAliases.run (.plain aliases line t) =
    .ok false (.plain aliases line t) := rfl

/-- Whether a token is handed on as it is read: it is no line end, and no word that could be a
keyword or an alias. -/
def Passes (wants : Wants) : Token → Prop
  | .newline => False
  | .word word => word.plain? = none ∨ (wants.keywords = false ∧ wants.aliases = false)
  | _ => True

theorem skipLines_of_passes (h : Passes wants token) (n : Nat) :
    skipLines commands n token = pure token := by
  cases token with
  | newline => exact h.elim
  | _ => cases n <;> rfl

/-- A token that passes is read once, whether it is pushed back or still in the text. -/
theorem run_readTokenWith (h : Passes wants token) {s : Source} (fuel : Nat)
    (hleave : leaveAliases.run s = .ok false s)
    (hnext : (nextRaw commands).run s = .ok token (.plain aliases line t)) :
    (readTokenWith commands wants (fuel + 1)).run s = .ok token (.plain aliases line t) := by
  have hskip := skipLines_of_passes commands h
  simp only [readTokenWith, EStateM.run_bind, EStateM.run_get, hleave, hnext, run_leaveAliases]
  cases token with
  | word word =>
      rcases h with hplain | ⟨hkeywords, haliases⟩
      · split <;> simp only [EStateM.run_bind, run_rest, hskip, EStateM.run_pure, hplain]
      · cases hword : word.plain? with
        | none => split <;> simp only [EStateM.run_bind, run_rest, hskip, EStateM.run_pure, hword]
        | some text =>
            split <;> simp only [EStateM.run_bind, run_rest, hskip, EStateM.run_pure, hword,
              hkeywords, haliases, Bool.or_false, Bool.and_false, Bool.false_and, Bool.false_eq_true,
              if_false]
  | newline => exact h.elim
  | _ => split <;> simp only [EStateM.run_bind, run_rest, hskip, EStateM.run_pure]

theorem run_readToken_holding (h : Passes wants token) :
    (readToken commands wants).run (.holding token aliases line t) =
      .ok token (.plain aliases line t) :=
  run_readTokenWith commands h 999 rfl rfl

theorem run_readToken {l l' : Nat} (h : Passes wants token)
    (hraw : (readRaw commands .bare).run (.plain aliases l t) = .ok token (.plain aliases l' r)) :
    (readToken commands wants).run (.plain aliases l t) = .ok token (.plain aliases l' r) :=
  run_readTokenWith commands h 999 rfl hraw

/-! ## Raw tokens

A raw token is read from the characters, whatever is wanted: blanks are passed over, and then an
operator or a word begins. -/

/-- Nothing that a reader skips stands at the start of a text. -/
def IsTight (t : Text) : Prop :=
  ∀ c, t.head? = some c → c ≠ ' ' ∧ c ≠ '\t' ∧ c ≠ '\\' ∧ c ≠ '#'

theorem blanks_of_isTight (h : IsTight t) : blanks t = 0 := by
  cases t with
  | nil => rfl
  | cons c t =>
      obtain ⟨hspace, htab, hslash, -⟩ := h c rfl
      unfold blanks
      split <;> simp_all

theorem IsTight.head?_ne (h : IsTight t) : t.head? ≠ some '#' := fun hmark =>
  (h '#' hmark).2.2.2 rfl

theorem run_skipBlanks (h : IsTight t) :
    skipBlanks.run (.plain aliases line t) = .ok ⟨⟩ (.plain aliases line t) := by
  simp [skipBlanks, blanks_of_isTight h, h.head?_ne]

theorem run_skipBlanks_space (h : IsTight t) :
    skipBlanks.run (.plain aliases line (' ' :: t)) = .ok ⟨⟩ (.plain aliases line t) := by
  have hblanks : blanks (' ' :: t) = 1 := by rw [blanks, blanks_of_isTight h]
  simp [skipBlanks, hblanks, h.head?_ne]

theorem run_readRaw_space (h : IsTight t) (context : Context) :
    (readRaw commands context).run (.plain aliases line (' ' :: t)) =
      (readRaw commands context).run (.plain aliases line t) := by
  unfold readRaw
  rw [run_bind (run_skipBlanks_space h), run_bind (run_skipBlanks h)]

theorem run_readRaw_operator {n : Nat} (h : IsTight t) (hop : operator? t = some (token, n))
    (hlines : (t.take n).count '\n' = 0) (context : Context) :
    (readRaw commands context).run (.plain aliases line t) =
      .ok token (.plain aliases line (t.drop n)) := by
  unfold readRaw
  rw [run_bind (run_skipBlanks h), run_bind run_rest, hop]
  dsimp only
  rw [run_bind (run_discard_take n), hlines]
  rfl

theorem run_readRaw_word {word : Word} {n : Nat} (h : IsTight t) (hop : operator? t = none)
    (hword : (readParts commands (steps t) .bare 0 false).run (.plain aliases line t) =
      .ok word (.plain aliases n r))
    (hmark : redirectionMark? r = none) :
    (readRaw commands .bare).run (.plain aliases line t) =
      .ok (.word word) (.plain aliases n r) := by
  unfold readRaw
  rw [run_bind (run_skipBlanks h), run_bind run_rest, hop]
  dsimp only
  rw [run_bind hword, run_bind run_rest, hmark]
  split
  · next hnone => cases hnone
  · rfl

end Reader

/-! ## Arguments

A plain argument has no character that means anything to the shell, and any other one is quoted. -/

/-- A character that stands for itself in a word, wherever it stands there. -/
def isBare (c : Char) : Bool := Context.isOrdinary .bare c && !"~#*?[".toList.contains c

/-- An argument as it is written: characters that stand for themselves, and then perhaps a quoted
text. -/
structure Argument where
  bare : Text
  quoted : Option Text
  isBare_of_mem : ∀ c ∈ bare, isBare c = true
  /-- Something is written. -/
  isSome : bare ≠ [] ∨ quoted.isSome = true

namespace Argument

def shown (a : Argument) : Text := a.bare ++ a.quoted.elim [] quote

/-- What a program gets of an argument. -/
def value (a : Argument) : Text := a.bare ++ a.quoted.getD []

def word (a : Argument) : Word :=
  match a.bare with
  | [] => a.quoted.elim [] quotedWord
  | bare => .plain bare :: a.quoted.elim [] quotedWord

def plain (t : Text) (h : t ≠ [] ∧ ∀ c ∈ t, isBare c = true) : Argument :=
  ⟨t, none, h.2, Or.inl h.1⟩

def quotation (t : Text) : Argument :=
  ⟨[], some t, fun _ h => absurd h List.not_mem_nil, Or.inr rfl⟩

theorem shown_plain {t : Text} (h : t ≠ [] ∧ ∀ c ∈ t, isBare c = true) : (plain t h).shown = t :=
  List.append_nil t

theorem shown_quotation (t : Text) : (quotation t).shown = quote t := rfl

end Argument

/-- The arguments of a call, each behind a blank. -/
def shownArguments (arguments : List Argument) : Text := arguments.flatMap fun a => ' ' :: a.shown

/-- The words of a call: its program in quotes, and its arguments. -/
def callWords (program : Text) (arguments : List Argument) : List Word :=
  quotedWord program :: arguments.map Argument.word

namespace Reader

variable {aliases : List (Text × Text)} {line : Nat} {r t : Text} {token : Token} {wants : Wants}
variable (commands : Reader Command)

theorem isOrdinary_of_isBare {c : Char} (h : isBare c = true) : Context.isOrdinary .bare c = true :=
  ((Bool.and_eq_true _ _).mp h).1

theorem newline_not_mem {x : Text} (h : ∀ c ∈ x, isBare c = true) : '\n' ∉ x := fun hmem =>
  absurd (h '\n' hmem) (by decide)

theorem run_readParts_bare {x : Text} {word : Word} {s : Source} {fuel depth : Nat} {inner : Bool}
    (hne : x ≠ []) (hx : ∀ c ∈ x, isBare c = true)
    (hstop : ∀ c, r.head? = some c → Context.isOrdinary .bare c = false)
    (h : (readParts commands fuel .bare depth inner).run (.plain aliases line r) = .ok word s) :
    (readParts commands (fuel + 1) .bare depth inner).run (.plain aliases line (x ++ r)) =
      .ok (.cons (.plain x) word) s := by
  have hnone : r.takeWhile (Context.isOrdinary .bare) = [] := by
    cases r with
    | nil => rfl
    | cons c r => rw [List.takeWhile_cons, hstop c rfl, if_neg Bool.false_ne_true]
  have htake : (x ++ r).takeWhile (Context.isOrdinary .bare) = x := by
    rw [List.takeWhile_append_of_pos fun c hc => isOrdinary_of_isBare (hx c hc), hnone,
      List.append_nil]
  have hempty : (!x.isEmpty) = true := by simp [hne]
  have hlines : ((x ++ r).take x.length).count '\n' = 0 := by
    rw [List.take_left]
    exact List.count_eq_zero.mpr (newline_not_mem hx)
  unfold readParts
  rw [run_bind run_rest, htake, if_pos hempty, run_bind (run_discard_take _), hlines, List.drop_left,
    Nat.add_zero, run_bind h]
  rfl

theorem not_isOrdinary_of_endsWord {c : Char} (h : Context.endsWord c = true) :
    Context.isOrdinary .bare c = false := by
  simp [Context.isOrdinary, h]

theorem run_readParts_argument (a : Argument) (hr : EndsWord r) {fuel depth : Nat} {inner : Bool}
    (hfuel : a.shown.length < fuel) :
    (readParts commands fuel .bare depth inner).run (.plain aliases line (a.shown ++ r)) =
      .ok a.word (.plain aliases (line + a.shown.count '\n') r) := by
  have hquote : ∀ t {fuel}, (quote t).length < fuel →
      (readParts commands fuel .bare depth inner).run (.plain aliases line (quote t ++ r)) =
        .ok (quotedWord t) (.plain aliases (line + (quote t).count '\n') r) := by
    intro t fuel hfuel
    rw [count_quote]
    exact run_readParts_quote commands depth inner t hr hfuel
  obtain ⟨bare, quoted, hbare, hsome⟩ := a
  -- without a character before the quotes, there is no part for one
  cases bare with
  | nil =>
      obtain ⟨t, rfl⟩ := Option.isSome_iff_exists.mp (hsome.resolve_left fun h => h rfl)
      exact hquote t hfuel
  | cons c bare =>
      have hne : c :: bare ≠ [] := List.cons_ne_nil c bare
      have hcount : (c :: bare).count '\n' = 0 := List.count_eq_zero.mpr (newline_not_mem hbare)
      obtain ⟨fuel, rfl⟩ : ∃ n, fuel = n + 1 := ⟨fuel - 1, by omega⟩
      rw [Argument.shown, List.count_append, hcount, Nat.zero_add, List.append_assoc]
      rw [Argument.shown, List.length_append, List.length_cons] at hfuel
      cases quoted with
      | none =>
          obtain ⟨fuel, rfl⟩ : ∃ n, fuel = n + 1 := ⟨fuel - 1, by omega⟩
          exact run_readParts_bare commands hne hbare (fun c hc => not_isOrdinary_of_endsWord (hr c hc))
            (run_readParts_end commands fuel depth inner hr)
      | some t =>
          have hstop : ∀ c, (quote t ++ r).head? = some c → Context.isOrdinary .bare c = false := by
            rintro c ⟨⟩
            decide
          have hlength : (quote t).length < fuel := by
            rw [Option.elim_some] at hfuel
            omega
          obtain ⟨x, rest, hword⟩ := exists_quotedWord_eq t
          refine (run_readParts_bare commands hne hbare hstop (hquote t hlength)).trans ?_
          simp only [Argument.word, Option.elim_some, hword]
          rfl

/-- A word can start with a character. -/
def StartsWord (c : Char) : Prop := Context.endsWord c = false ∧ c ≠ '\\' ∧ c ≠ '#'

theorem startsWord_of_isBare {c : Char} (h : isBare c = true) : StartsWord c := by
  refine ⟨?_, ?_, ?_⟩
  · by_contra hends
    exact absurd (isOrdinary_of_isBare h) (by simp [Context.isOrdinary, hends])
  · rintro rfl
    exact absurd h (by decide)
  · rintro rfl
    exact absurd h (by decide)

theorem isTight_of_startsWord {c : Char} (h : StartsWord c) : IsTight (c :: t) := by
  obtain ⟨hends, hslash, hmark⟩ := h
  rintro d ⟨⟩
  refine ⟨?_, ?_, hslash, hmark⟩ <;> rintro rfl <;> exact absurd hends (by decide)

theorem operator?_of_startsWord {c : Char} (h : StartsWord c) : operator? (c :: t) = none := by
  have hends := h.1
  unfold operator?
  split <;> simp_all [Context.endsWord]

theorem exists_shown_append (a : Argument) (r : Text) :
    ∃ c t, a.shown ++ r = c :: t ∧ StartsWord c := by
  obtain ⟨bare, quoted, hbare, hsome⟩ := a
  cases bare with
  | nil =>
      obtain ⟨t, rfl⟩ := Option.isSome_iff_exists.mp (hsome.resolve_left fun h => h rfl)
      exact ⟨'\'', _, rfl, by decide, by decide, by decide⟩
  | cons c bare => exact ⟨c, _, rfl, startsWord_of_isBare (hbare c List.mem_cons_self)⟩

theorem isTight_shown (a : Argument) (r : Text) : IsTight (a.shown ++ r) := by
  obtain ⟨c, t, ht, hc⟩ := exists_shown_append a r
  rw [ht]
  exact isTight_of_startsWord hc

/-- Nothing goes on with a word, and nothing turns it into a redirection. -/
def Ends (t : Text) : Prop := EndsWord t ∧ redirectionMark? t = none

theorem run_readRaw_argument (a : Argument) (hr : Ends r) :
    (readRaw commands .bare).run (.plain aliases line (a.shown ++ r)) =
      .ok (.word a.word) (.plain aliases (line + a.shown.count '\n') r) := by
  obtain ⟨c, t, ht, hc⟩ := exists_shown_append a r
  have hfuel : a.shown.length < steps (a.shown ++ r) := by
    rw [steps, List.length_append]
    omega
  have hop : operator? (a.shown ++ r) = none := by
    rw [ht]
    exact operator?_of_startsWord hc
  exact run_readRaw_word commands (isTight_shown a r) hop
    (run_readParts_argument commands a hr.1 hfuel) hr.2

theorem run_readToken_space {l l' : Nat} (htight : IsTight t) (h : Passes wants token)
    (hraw : (readRaw commands .bare).run (.plain aliases l t) = .ok token (.plain aliases l' r)) :
    (readToken commands wants).run (.plain aliases l (' ' :: t)) = .ok token (.plain aliases l' r) :=
  run_readToken commands h ((run_readRaw_space commands htight _).trans hraw)

/-- An argument is read behind a blank where no keyword and no alias is wanted. -/
theorem run_readToken_argument (a : Argument) (hr : Ends r) (hkeywords : wants.keywords = false)
    (haliases : wants.aliases = false) :
    (readToken commands wants).run (.plain aliases line (' ' :: a.shown ++ r)) =
      .ok (.word a.word) (.plain aliases (line + a.shown.count '\n') r) :=
  run_readToken_space commands (isTight_shown a r) (Or.inr ⟨hkeywords, haliases⟩)
    (run_readRaw_argument commands a hr)

end Reader

/-! ## Delimiters -/

/-- How commands follow each other. -/
inductive Connector where
  | andThen
  | orElse
  | sequence

/-- What stands behind a command: another one, or the end of the group. -/
inductive Delimiter where
  | before (how : Connector)
  | closing

namespace Connector

def shown : Connector → Text
  | andThen => " && ".toList
  | orElse => " || ".toList
  | sequence => "; ".toList

theorem shown_andThen : andThen.shown = " && ".toList := rfl

theorem shown_orElse : orElse.shown = " || ".toList := rfl

theorem shown_sequence : sequence.shown = "; ".toList := rfl

def token : Connector → Token
  | andThen => .andThen
  | orElse => .orElse
  | sequence => .semicolon

def command : Connector → Command → Command → Command
  | andThen => .andThen
  | orElse => .orElse
  | sequence => .sequence

end Connector

namespace Delimiter

def shown : Delimiter → Text
  | before how => how.shown
  | closing => [')']

def token : Delimiter → Token
  | before how => how.token
  | closing => .closing

/-- What is left of a delimiter when its token has been read. -/
def left : Delimiter → Text
  | before _ => [' ']
  | closing => []

end Delimiter

namespace Reader

variable {aliases : List (Text × Text)} {line : Nat} {r t : Text} {token : Token} {wants : Wants}
variable (commands : Reader Command)

theorem ends_space : Ends (' ' :: r) := ⟨by rintro c ⟨⟩; decide, rfl⟩

theorem ends_delimiter (d : Delimiter) : Ends (d.shown ++ r) := by
  rcases d with (_ | _ | _) | _ <;> exact ⟨by rintro c ⟨⟩; decide, rfl⟩

theorem passes_delimiter (d : Delimiter) : Passes wants d.token := by
  rcases d with (_ | _ | _) | _ <;> trivial

theorem run_readToken_delimiter (d : Delimiter) :
    (readToken commands wants).run (.plain aliases line (d.shown ++ r)) =
      .ok d.token (.plain aliases line (d.left ++ r)) := by
  rcases d with (_ | _ | _) | _
  · have htight : IsTight ("&& ".toList ++ r) := by rintro c ⟨⟩; decide
    exact run_readToken_space commands htight trivial (run_readRaw_operator commands htight rfl rfl _)
  · have htight : IsTight ("|| ".toList ++ r) := by rintro c ⟨⟩; decide
    exact run_readToken_space commands htight trivial (run_readRaw_operator commands htight rfl rfl _)
  · have htight : IsTight ("; ".toList ++ r) := by rintro c ⟨⟩; decide
    exact run_readToken commands trivial (run_readRaw_operator commands htight rfl rfl _)
  · have htight : IsTight (')' :: r) := by rintro c ⟨⟩; decide
    exact run_readToken commands trivial (run_readRaw_operator commands htight rfl rfl _)

end Reader

end SwiftExistential.Shell
