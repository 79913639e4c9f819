import NamedLock.Proofs.Config.Names
import NamedLock.Proofs.Number.Decimal
import NamedLock.Uuid

/-!
# Writing — documents written and read back

A document can be written line by line: a plain key, an equals sign and a text, a truth value or a number. In a text
only quotes, backslashes and controls are escaped. The reader gives back every entry, in order, whatever the texts are.
-/

namespace NamedLock

/-- A value that stands on one line in every format. -/
inductive Literal
  | text (s : String)
  | truth (b : Bool)
  | number (n : Nat)
  deriving DecidableEq, Repr

namespace Toml

/-! ## Texts -/

/-- How a character stands in a text on one line. -/
def writeChar (c : Char) : List Char :=
  if c = '"' then ['\\', '"']
  else if c = '\\' then ['\\', '\\']
  else if isPlain c then [c]
  else '\\' :: 'u' :: Uuid.hexDigits 4 c.toNat

/-- A text between quotes. -/
def writeText (s : String) : List Char := '"' :: (s.toList.flatMap writeChar ++ ['"'])

section Texts

variable {n : Nat} (rest : List Char)

theorem isHex_digitChar (h : n < 16) : isHex n.digitChar = true := by
  have hall : ∀ n < 16, isHex (Nat.digitChar n) = true := by decide
  exact hall n h

theorem digitValue_digitChar (h : n < 16) : Number.digitValue n.digitChar = n := by
  have hall : ∀ n < 16, Number.digitValue (Nat.digitChar n) = n := by decide
  exact hall n h

/-- A digit of a code point that is not the last one. -/
theorem basicBody_code_more {places value : Nat} (h : n < 16) :
    basicBody (.code (places + 2) value) (n.digitChar :: rest) =
      basicBody (.code (places + 1) (value * 16 + n)) rest := by
  rw [basicBody, if_pos (isHex_digitChar h), digitValue_digitChar h]
  simp

/-- The last digit of a code point. -/
theorem basicBody_code_last {value : Nat} (h : n < 16) (hcode : isCodePoint (value * 16 + n) = true) :
    basicBody (.code 1 value) (n.digitChar :: rest) =
      prepend (Char.ofNat (value * 16 + n)) (basicBody .plain rest) := by
  rw [basicBody, if_pos (isHex_digitChar h), digitValue_digitChar h]
  simp [hcode]

/-- Four digits are read back as the code point that they were written for. -/
theorem basicBody_hexDigits (h : n < 65536) (hcode : isCodePoint n = true) :
    basicBody (.code 4 0) (Uuid.hexDigits 4 n ++ rest) = prepend (Char.ofNat n) (basicBody .plain rest) := by
  have hvalue : (((0 * 16 + n / 16 / 16 / 16 % 16) * 16 + n / 16 / 16 % 16) * 16 + n / 16 % 16) * 16 + n % 16 = n := by
    omega
  have hlt : ∀ m, m % 16 < 16 := fun m => Nat.mod_lt m (by decide)
  have hdigits : Uuid.hexDigits 4 n ++ rest =
      (n / 16 / 16 / 16 % 16).digitChar :: (n / 16 / 16 % 16).digitChar :: (n / 16 % 16).digitChar ::
        (n % 16).digitChar :: rest := rfl
  rw [hdigits, basicBody_code_more _ (hlt _), basicBody_code_more _ (hlt _), basicBody_code_more _ (hlt _),
    basicBody_code_last _ (hlt _) (by rw [hvalue]; exact hcode), hvalue]

/-- Only controls do not stand for themselves. -/
theorem toNat_of_not_plain {c : Char} (h : isPlain c = false) : c.toNat < 128 := by
  simp only [isPlain, Bool.or_eq_false_iff, Bool.and_eq_false_iff, decide_eq_false_iff_not, bne_eq_false_iff_eq] at h
  omega

/-- A character is read back. -/
theorem basicBody_writeChar (c : Char) :
    basicBody .plain (writeChar c ++ rest) = prepend c (basicBody .plain rest) := by
  unfold writeChar
  split
  next hquote =>
    subst hquote
    rfl
  next hquote =>
    split
    next hslash =>
      subst hslash
      rfl
    next hslash =>
      split
      next hplain => simp [basicBody, hquote, hslash, hplain]
      next hplain =>
        have hsmall := toNat_of_not_plain (Bool.eq_false_iff.2 hplain)
        have hcode : isCodePoint c.toNat = true := by
          simp only [isCodePoint, Bool.or_eq_true, decide_eq_true_eq]
          omega
        calc basicBody .plain ('\\' :: 'u' :: Uuid.hexDigits 4 c.toNat ++ rest)
            = basicBody (.code 4 0) (Uuid.hexDigits 4 c.toNat ++ rest) := rfl
          _ = prepend (Char.ofNat c.toNat) (basicBody .plain rest) := basicBody_hexDigits rest (by omega) hcode
          _ = prepend c (basicBody .plain rest) := by rw [Char.ofNat_toNat]

/-- Characters are read back up to the closing quote. -/
theorem basicBody_writeChars (cs : List Char) :
    basicBody .plain (cs.flatMap writeChar ++ '"' :: rest) = some (cs, rest) := by
  induction cs with
  | nil => rfl
  | cons c cs ih => rw [List.flatMap_cons, List.append_assoc, basicBody_writeChar, ih]; rfl

/-- Nothing that is written for a character starts with a quote. -/
theorem head_writeChar (c : Char) : ∃ d ds, writeChar c = d :: ds ∧ d ≠ '"' := by
  unfold writeChar
  split
  next => exact ⟨_, _, rfl, by decide⟩
  next hquote =>
    split
    next => exact ⟨_, _, rfl, by decide⟩
    next =>
      split
      next => exact ⟨_, _, rfl, hquote⟩
      next => exact ⟨_, _, rfl, by decide⟩

/-- A quote that no two quotes follow opens a text on one line. -/
theorem takeText?_basic {cs : List Char} (h : ∀ ds, cs ≠ '"' :: '"' :: ds) :
    takeText? ('"' :: cs) = (basicBody .plain cs).map fun r => (String.ofList r.1, r.2) := by
  unfold takeText?
  split
  next ds heq => exact absurd (List.cons.inj heq).2 (h ds)
  next heq => rw [(List.cons.inj heq).2]
  next heq => exact absurd (List.cons.inj heq).1 (by decide)
  next heq => exact absurd (List.cons.inj heq).1 (by decide)
  next hnone _ _ => exact absurd rfl (hnone cs)

/-- A text is read back, at the end of a line. -/
theorem takeText?_writeText (s : String) : takeText? (writeText s ++ '\n' :: rest) = some (s, '\n' :: rest) := by
  have happend : writeText s ++ '\n' :: rest = '"' :: (s.toList.flatMap writeChar ++ '"' :: '\n' :: rest) := by
    simp [writeText]
  have hopen : ∀ ds, s.toList.flatMap writeChar ++ '"' :: '\n' :: rest ≠ '"' :: '"' :: ds := by
    intro ds heq
    cases hs : s.toList with
    | nil =>
      rw [hs] at heq
      exact absurd (List.cons.inj (List.cons.inj heq).2).1 (by decide)
    | cons c cs =>
      obtain ⟨d, ds', hd, hne⟩ := head_writeChar c
      rw [hs, List.flatMap_cons, hd] at heq
      exact hne (List.cons.inj heq).1
  rw [happend, takeText?_basic hopen, basicBody_writeChars]
  simp

end Texts

/-! ## Numbers -/

section Digits

variable {cs : List Char} (hcs : ∀ c ∈ cs, Number.isDigit c = true)

include hcs

/-- Digits that a character other than a digit should follow: there is none. -/
theorem skip?_digits {c : Char} (hc : Number.isDigit c = false) : Moment.skip? c cs = none := by
  cases cs with
  | nil => rfl
  | cons d ds =>
    have hne : d ≠ c := by
      rintro rfl
      exact absurd (hcs d List.mem_cons_self) (by simp [hc])
    exact if_neg hne

/-- What digits are taken off digits leaves digits. -/
theorem skip?_of_digits? {k m : Nat} {ds : List Char} (h : Moment.digits? k cs = some (m, ds)) {c : Char}
    (hc : Number.isDigit c = false) : Moment.skip? c ds = none := by
  unfold Moment.digits? at h
  dsimp only at h
  split at h
  next =>
    cases h
    exact skip?_digits (fun d hd => hcs d (List.mem_of_mem_drop hd)) hc
  next => cases h

/-- Digits alone are no moment: a dash or a colon would have to come. -/
theorem moment_parse?_digits : Moment.parse? cs = none := by
  have hdate : Moment.date? cs = none := by
    unfold Moment.date?
    cases h : Moment.digits? 4 cs with
    | none => rfl
    | some r => simp [skip?_of_digits? hcs h (c := '-') (by decide)]
  have htime : Moment.time? cs = none := by
    unfold Moment.time?
    cases h : Moment.digits? 2 cs with
    | none => rfl
    | some r => simp [skip?_of_digits? hcs h (c := ':') (by decide)]
  rw [Moment.parse?, hdate, htime]

theorem dropUnderscores_digits (between : Bool) (hne : between = true ∨ cs ≠ []) :
    dropUnderscores Number.isDigit between cs = some cs := by
  induction cs generalizing between with
  | nil =>
    rcases hne with rfl | hne
    · rfl
    · exact absurd rfl hne
  | cons c cs ih =>
    obtain ⟨hc, hcs⟩ := List.forall_mem_cons.1 hcs
    rw [dropUnderscores, if_pos hc, ih hcs true (.inl rfl)]
    rfl

end Digits

/-- Only zero is written with a zero in front. -/
theorem startsNumber_toDigits (n : Nat) : startsNumber (Nat.toDigits 10 n) = true := by
  have hzero : ∀ c cs, Nat.toDigits 10 n ≠ '0' :: c :: cs := by
    induction n using Nat.strongRecOn with
    | _ n ih =>
      intro c cs heq
      rw [Nat.toDigits_eq_if (by decide)] at heq
      split at heq
      next => exact absurd (List.cons.inj heq).2 (by simp)
      next hge =>
        -- a zero in front would stand in front of the other digits, too
        cases hfront : Nat.toDigits 10 (n / 10) with
        | nil => exact Nat.toDigits_ne_nil hfront
        | cons d ds =>
          rw [hfront] at heq
          obtain rfl : d = '0' := (List.cons.inj heq).1
          cases ds with
          | nil =>
            have hvalue := Number.ofDigits_toDigits (n / 10)
            rw [hfront] at hvalue
            have hworth : Number.ofDigits 10 ['0'] = 0 := by decide
            omega
          | cons d' ds => exact ih (n / 10) (by omega) d' ds hfront
  unfold startsNumber
  split
  next c cs heq => exact absurd heq (hzero _ _)
  next => rfl

/-- A number in digits is read back when it fits. -/
theorem bare?_toDigits {n : Nat} (h : n < 2 ^ 63) : bare? (Nat.toDigits 10 n) = some (.integer n) := by
  have hdigits : ∀ c ∈ Nat.toDigits 10 n, Number.isDigit c = true := fun c => Number.isDigit_of_mem_toDigits
  have hhead : ∀ {c cs}, Nat.toDigits 10 n = c :: cs → Number.isDigit c = true := Number.isDigit_of_toDigits_eq_cons
  have hrun : ∀ c ∈ Nat.toDigits 10 n, inRun c = true := by
    intro c hc
    simp [inRun, hdigits c hc]
  have hfits : Number.inSigned64 (n : Int) = true := by
    rw [Number.inSigned64_iff]
    omega
  have hsign : Number.splitSign (Nat.toDigits 10 n) = (false, Nat.toDigits 10 n) := by
    unfold Number.splitSign
    split
    next heq => exact absurd (hhead heq) (by decide)
    next heq => exact absurd (hhead heq) (by decide)
    next => rfl
  have hwhole : wholeDigits? (Nat.toDigits 10 n) = some (Nat.toDigits 10 n) := by
    simp [wholeDigits?, dropUnderscores_digits hdigits false (.inr Nat.toDigits_ne_nil), startsNumber_toDigits]
  have hnumber : number? false (Nat.toDigits 10 n) = some (.integer n) := by
    unfold number?
    rw [List.takeWhile_eq_self_iff.2 hrun, List.dropWhile_eq_nil_iff.2 hrun, hwhole, Option.bind_eq_bind,
      Option.bind_some]
    simp only [Number.ofDigits_toDigits, Bool.false_eq_true, if_false, fitting?, hfits, if_true]
  have hword : ∀ {c cs}, Number.isDigit c = false → Nat.toDigits 10 n ≠ c :: cs := by
    intro c cs hc heq
    exact absurd (hhead heq) (by simp [hc])
  -- a base would be named by a letter behind the first digit
  have hbase : ∀ {c cs}, Number.isDigit c = false → Nat.toDigits 10 n ≠ '0' :: c :: cs := by
    intro c cs hc heq
    exact absurd (hdigits c (by rw [heq]; simp)) (by simp [hc])
  unfold bare?
  rw [if_neg (hword (by decide)), if_neg (hword (by decide)), moment_parse?_digits hdigits]
  dsimp only
  split
  next heq => exact absurd heq (hbase (by decide))
  next heq => exact absurd heq (hbase (by decide))
  next heq => exact absurd heq (hbase (by decide))
  next =>
    simp only [hsign, special?, if_neg (hword (c := 'i') (by decide)), if_neg (hword (c := 'n') (by decide)), hnumber]

/-- A bare value ends where its line ends. -/
theorem takeBare?_of_line {cs rest : List Char} (hcs : ∀ c ∈ cs, endsBare c = false) :
    takeBare? (cs ++ '\n' :: rest) = (bare? cs).map fun v => (v, '\n' :: rest) := by
  have hpass : ∀ c ∈ cs, (!endsBare c) = true := by
    intro c hc
    simp [hcs c hc]
  have htoken : (cs ++ '\n' :: rest).takeWhile (!endsBare ·) = cs := by
    rw [List.takeWhile_append_of_pos hpass]
    simp [endsBare]
  have hrest : (cs ++ '\n' :: rest).dropWhile (!endsBare ·) = '\n' :: rest := by
    rw [List.dropWhile_append_of_pos hpass]
    simp [endsBare]
  unfold takeBare?
  dsimp only
  rw [htoken, hrest]
  split
  next heq => exact absurd (List.cons.inj heq).1 (by decide)
  next => rfl

/-! ## Values -/

/-- How a value stands on a line. -/
def writeLiteral : Literal → List Char
  | .text s => writeText s
  | .truth true => ['t', 'r', 'u', 'e']
  | .truth false => ['f', 'a', 'l', 's', 'e']
  | .number n => Nat.toDigits 10 n

/-- The value that a document holds for it. -/
def ofLiteral : Literal → Value
  | .text s => .text s
  | .truth b => .boolean b
  | .number n => .integer n

/-- Numbers have to fit 63 bits. -/
def Fits : Literal → Prop
  | .number n => n < 2 ^ 63
  | _ => True

instance (v : Literal) : Decidable (Fits v) := by
  unfold Fits
  split <;> infer_instance

section Values

variable (fuel depth : Nat) (rest : List Char)

/-- What opens neither a text nor an array nor a table is a bare value. -/
theorem value_bare {c : Char} {cs : List Char} (hc : c ∉ ['"', '\x27', '[', '\x7b']) :
    value (fuel + 1) depth (c :: cs) = takeBare? (c :: cs) := by
  simp only [List.mem_cons, List.not_mem_nil, or_false, not_or] at hc
  obtain ⟨hquote, hsingle, hbracket, hbrace⟩ := hc
  unfold value
  split
  next heq => exact absurd (List.cons.inj heq).1 hquote
  next heq => exact absurd (List.cons.inj heq).1 hsingle
  next heq => exact absurd (List.cons.inj heq).1 hbracket
  next heq => exact absurd (List.cons.inj heq).1 hbrace
  next => rfl

/-- A value is read back, at the end of a line. -/
theorem value_writeLiteral {v : Literal} (h : Fits v) :
    value (fuel + 1) depth (writeLiteral v ++ '\n' :: rest) = some (ofLiteral v, '\n' :: rest) := by
  cases v with
  | text s =>
    have hquote : writeLiteral (.text s) ++ '\n' :: rest = '"' :: (s.toList.flatMap writeChar ++ ['"'] ++ '\n' :: rest) :=
      rfl
    have htext := takeText?_writeText rest s
    rw [writeText, List.cons_append] at htext
    rw [hquote, value, htext]
    rfl
  | truth b =>
    have hends : ∀ c ∈ writeLiteral (.truth b), endsBare c = false := by
      cases b <;> simp [writeLiteral, endsBare]
    have hbare : takeBare? (writeLiteral (.truth b) ++ '\n' :: rest) = some (.boolean b, '\n' :: rest) := by
      rw [takeBare?_of_line hends]
      cases b <;> rfl
    cases b with
    | true => exact (value_bare fuel depth (by simp)).trans hbare
    | false => exact (value_bare fuel depth (by simp)).trans hbare
  | number n =>
    have hends : ∀ c ∈ Nat.toDigits 10 n, endsBare c = false := by
      intro c hc
      have hrange := Number.toNat_of_isDigit (Number.isDigit_of_mem_toDigits hc)
      have hne : ∀ d : Char, d.toNat < 48 ∨ 57 < d.toNat → (c == d) = false := by
        intro d hd
        rw [beq_eq_false_iff_ne]
        rintro rfl
        omega
      simp [endsBare, hne]
    have hbare : takeBare? (Nat.toDigits 10 n ++ '\n' :: rest) = some (.integer n, '\n' :: rest) := by
      rw [takeBare?_of_line hends, bare?_toDigits h]
      rfl
    obtain ⟨c, cs, hcs⟩ := List.exists_cons_of_ne_nil (Nat.toDigits_ne_nil (n := n) (b := 10))
    have hdigit := Number.isDigit_of_toDigits_eq_cons hcs
    have hopens : c ∉ ['"', '\x27', '[', '\x7b'] := by
      intro hmem
      have hnone : ∀ d ∈ ['"', '\x27', '[', '\x7b'], Number.isDigit d = false := by simp [Number.isDigit]
      exact absurd hdigit (by simp [hnone c hmem])
    rw [writeLiteral]
    rw [hcs] at hbare ⊢
    exact (value_bare fuel depth hopens).trans hbare

end Values

/-! ## Lines -/

/-- An entry on a line of its own. -/
def writeEntry (e : String × Literal) : List Char :=
  e.1.toList ++ ' ' :: '=' :: ' ' :: (writeLiteral e.2 ++ ['\n'])

/-- A document with an entry on every line. -/
def write (es : List (String × Literal)) : String := String.ofList (es.flatMap writeEntry)

/-- Entries that can be written: their keys are plain and differ, and their numbers fit. -/
structure Writable (es : List (String × Literal)) : Prop where
  plain : ∀ e ∈ es, Config.Plain e.1
  nodup : (Keyed.keys es).Nodup
  fits : ∀ e ∈ es, Fits e.2

instance (es : List (String × Literal)) : Decidable (Writable es) :=
  decidable_of_iff ((∀ e ∈ es, Config.Plain e.1) ∧ (Keyed.keys es).Nodup ∧ ∀ e ∈ es, Fits e.2)
    ⟨fun h => ⟨h.1, h.2.1, h.2.2⟩, fun h => ⟨h.plain, h.nodup, h.fits⟩⟩

section Lines

variable {k : String} (hk : Config.Plain k) (rest : List Char)

/-- A line starts with a character of its key. -/
theorem exists_cons_of_plain (hk : Config.Plain k) : ∃ c cs, k.toList = c :: cs ∧ isKeyChar c = true := by
  obtain ⟨c, cs, hcs⟩ := List.exists_cons_of_ne_nil hk.nonempty
  exact ⟨c, cs, hcs, hk.chars c (by rw [hcs]; exact List.mem_cons_self)⟩

theorem ne_of_isKeyChar {c d : Char} (hc : isKeyChar c = true) (hd : isKeyChar d = false) : c ≠ d := by
  rintro rfl
  exact absurd hc (by simp [hd])

/-- A plain key is read back, with the blank behind it skipped. -/
theorem key_of_plain (hk : Config.Plain k) : key (k.toList ++ ' ' :: '=' :: rest) = some (([], k), '=' :: rest) := by
  obtain ⟨c, cs, hcs, hc⟩ := exists_cons_of_plain hk
  have hpass : ∀ c ∈ k.toList, isKeyChar c = true := hk.chars
  have hblank : skipBlanks (k.toList ++ ' ' :: '=' :: rest) = k.toList ++ ' ' :: '=' :: rest := by
    have hno : isBlank c = false := by
      simp [isBlank, ne_of_isKeyChar hc (d := ' ') (by decide), ne_of_isKeyChar hc (d := '\t') (by decide)]
    rw [hcs, List.cons_append, skipBlanks, List.dropWhile_cons_of_neg (by simp [hno])]
  have hsimple : simpleKey (k.toList ++ ' ' :: '=' :: rest) = some (k, ' ' :: '=' :: rest) := by
    have htake : (k.toList ++ ' ' :: '=' :: rest).takeWhile isKeyChar = k.toList := by
      rw [List.takeWhile_append_of_pos hpass]
      simp [isKeyChar, Number.isDigit]
    have hdrop : (k.toList ++ ' ' :: '=' :: rest).dropWhile isKeyChar = ' ' :: '=' :: rest := by
      rw [List.dropWhile_append_of_pos hpass]
      simp [isKeyChar, Number.isDigit]
    unfold simpleKey
    split
    next heq =>
      rw [hcs] at heq
      exact absurd (List.cons.inj heq).1 (ne_of_isKeyChar hc (by decide))
    next heq =>
      rw [hcs] at heq
      exact absurd (List.cons.inj heq).1 (ne_of_isKeyChar hc (by decide))
    next =>
      dsimp only
      rw [htake, hdrop, if_neg hk.nonempty, String.ofList_toList]
  have hequals : skipBlanks (' ' :: '=' :: rest) = '=' :: rest := by simp [skipBlanks, isBlank]
  have hgreatest : greatestDepth = 79 + 1 := rfl
  rw [key, hgreatest, keyPath, hblank, hsimple]
  simp [hequals]

/-- The line of an entry is read back. -/
theorem line_writeEntry {e : String × Literal} (hk : Config.Plain e.1) (hv : Fits e.2) :
    line (writeEntry e ++ rest) = some (.entry [] e.1 (ofLiteral e.2), rest) := by
  obtain ⟨c, cs, hcs, hc⟩ := exists_cons_of_plain hk
  have hentry : writeEntry e ++ rest = e.1.toList ++ ' ' :: '=' :: ' ' :: (writeLiteral e.2 ++ '\n' :: rest) := by
    simp [writeEntry]
  have hvalue : ∀ fuel, value (fuel + 1) greatestDepth (writeLiteral e.2 ++ '\n' :: rest) =
      some (ofLiteral e.2, '\n' :: rest) := fun fuel => value_writeLiteral fuel greatestDepth rest hv
  have hblank : skipBlanks (' ' :: (writeLiteral e.2 ++ '\n' :: rest)) = writeLiteral e.2 ++ '\n' :: rest := by
    have hhead : ∃ d ds, writeLiteral e.2 ++ '\n' :: rest = d :: ds ∧ isBlank d = false := by
      cases e.2 with
      | text s => exact ⟨_, _, rfl, by decide⟩
      | truth b => cases b <;> exact ⟨_, _, rfl, by decide⟩
      | number n =>
        obtain ⟨d, ds, hds⟩ := List.exists_cons_of_ne_nil (Nat.toDigits_ne_nil (n := n) (b := 10))
        have hdigit := Number.isDigit_of_toDigits_eq_cons hds
        refine ⟨d, ds ++ '\n' :: rest, by rw [writeLiteral, hds, List.cons_append], ?_⟩
        have hkey : isKeyChar d = true := by simp [isKeyChar, hdigit]
        simp [isBlank, ne_of_isKeyChar hkey (d := ' ') (by decide), ne_of_isKeyChar hkey (d := '\t') (by decide)]
    obtain ⟨d, ds, hds, hno⟩ := hhead
    rw [hds, skipBlanks, List.dropWhile_cons_of_pos (by decide), List.dropWhile_cons_of_neg (by simp [hno])]
  have hend : endLine? ('\n' :: rest) = some rest := by simp [endLine?, skipBlanks, isBlank]
  have hbracket : c ≠ '[' := ne_of_isKeyChar hc (by decide)
  have hkey := key_of_plain (' ' :: (writeLiteral e.2 ++ '\n' :: rest)) hk
  rw [hentry]
  rw [hcs, List.cons_append] at hkey ⊢
  unfold line
  split
  next heq => exact absurd (List.cons.inj heq).1 hbracket
  next heq => exact absurd (List.cons.inj heq).1 hbracket
  next =>
    rw [hkey]
    simp [hblank, hvalue, hend]

/-- All lines are read back. -/
theorem lines_write {es : List (String × Literal)} (hplain : ∀ e ∈ es, Config.Plain e.1) (hfits : ∀ e ∈ es, Fits e.2)
    {fuel : Nat} (hfuel : es.length < fuel) :
    lines fuel (es.flatMap writeEntry) = some (es.map fun e => .entry [] e.1 (ofLiteral e.2)) := by
  induction es generalizing fuel with
  | nil =>
    obtain ⟨fuel, rfl⟩ := Nat.exists_eq_add_one.2 (Nat.zero_lt_of_lt hfuel)
    rfl
  | cons e es ih =>
    obtain ⟨hk, hplain⟩ := List.forall_mem_cons.1 hplain
    obtain ⟨hv, hfits⟩ := List.forall_mem_cons.1 hfits
    obtain ⟨fuel, rfl⟩ := Nat.exists_eq_add_one.2 (Nat.zero_lt_of_lt hfuel)
    have hline := line_writeEntry (es.flatMap writeEntry) hk hv
    -- a key starts the line, so nothing is skipped before it
    have hfiller : skipFiller? false (writeEntry e ++ es.flatMap writeEntry) =
        some (writeEntry e ++ es.flatMap writeEntry) := by
      obtain ⟨c, cs, hcs, hc⟩ := exists_cons_of_plain hk
      have hno : ∀ d, isKeyChar d = false → (c == d) = false := by
        intro d hd
        rw [beq_eq_false_iff_ne]
        exact ne_of_isKeyChar hc hd
      have hhash : c ≠ '#' := ne_of_isKeyChar hc (by decide)
      rw [writeEntry, hcs]
      simp only [List.cons_append, skipFiller?]
      simp [isBlank, isLineEnd, hno ' ' (by decide), hno '\t' (by decide), hno '\n' (by decide), hno '\r' (by decide),
        hhash]
    have hne : writeEntry e ++ es.flatMap writeEntry ≠ [] := by
      simp [writeEntry]
    rw [List.flatMap_cons, lines, hfiller]
    split
    next heq => cases heq
    next heq => exact absurd (Option.some.inj heq) hne
    next cs _ heq =>
      rw [← Option.some.inj heq, hline]
      simp [ih hplain hfits (Nat.lt_of_succ_lt_succ hfuel)]

end Lines

/-! ## Documents -/

/-- Entries with keys that are still free are added one after the other. -/
theorem build_entries {es : List (String × Value)} {root : Branch} (hnodup : (Keyed.keys root ++ Keyed.keys es).Nodup) :
    build [] root (es.map fun e => .entry [] e.1 e.2) = some (root ++ es.map fun e => (e.1, .leaf e.2)) := by
  induction es generalizing root with
  | nil => simp [build]
  | cons e es ih =>
    have hfree : e.1 ∉ Keyed.keys root := by
      intro hmem
      exact (List.nodup_append.1 hnodup).2.2 _ hmem _ List.mem_cons_self rfl
    have hkeys : (Keyed.keys (root ++ [(e.1, Node.leaf e.2)]) ++ Keyed.keys es).Nodup := by
      simpa [Keyed.keys] using hnodup
    have hadd : actAt headerWalk (addAt [] e.1 e.2) [] .headed root = some (root ++ [(e.1, .leaf e.2)]) := by
      have hcontains : Keyed.contains root e.1 = false := by
        rw [Bool.eq_false_iff, Ne, Keyed.contains_iff]
        exact hfree
      simp [actAt, addAt, addLeaf, hcontains, Keyed.set_of_not_mem root _ hfree]
    rw [List.map_cons, build, hadd]
    simp only
    rw [ih hkeys]
    simp

theorem finished_leaves (es : List (String × Value)) : finished (es.map fun e => (e.1, .leaf e.2)) = es := by
  induction es with
  | nil => rfl
  | cons e es ih => rw [List.map_cons, finished, Node.toValue, ih]

/-- Without carriage returns there is none that stands alone. -/
theorem returnsEndLines_of_notMem {cs : List Char} (h : '\r' ∉ cs) : returnsEndLines cs = true := by
  induction cs with
  | nil => rfl
  | cons c cs ih =>
    obtain ⟨hc, hcs⟩ := not_or.1 (mt List.mem_cons.2 h)
    unfold returnsEndLines
    split
    next heq => cases heq
    next heq => exact absurd (List.cons.inj heq).1.symm hc
    next heq => exact absurd (List.cons.inj heq).1.symm hc
    next heq => rw [← (List.cons.inj heq).2]; exact ih hcs

section Marks

variable {d : Char}

theorem isHex_of_mem_hexDigits {places n : Nat} (h : d ∈ Uuid.hexDigits places n) : isHex d = true := by
  induction places generalizing n with
  | zero => cases h
  | succ places ih =>
    rcases List.mem_append.1 h with hfront | hlast
    · exact ih hfront
    · rw [List.mem_singleton.1 hlast]
      exact isHex_digitChar (Nat.mod_lt n (by decide))

theorem ne_return_of_mem_writeChar {c : Char} (h : d ∈ writeChar c) : d ≠ '\r' := by
  unfold writeChar at h
  split at h
  next => exact fun he => absurd (he ▸ h) (by decide)
  next =>
    split at h
    next => exact fun he => absurd (he ▸ h) (by decide)
    next =>
      split at h
      next hplain =>
        rw [List.mem_singleton.1 h]
        rintro rfl
        exact absurd hplain (by decide)
      next =>
        rintro rfl
        rcases List.mem_cons.1 h with he | h
        · exact absurd he (by decide)
        · rcases List.mem_cons.1 h with he | h
          · exact absurd he (by decide)
          · exact absurd (isHex_of_mem_hexDigits h) (by decide)

theorem ne_return_of_mem_writeLiteral {v : Literal} (h : d ∈ writeLiteral v) : d ≠ '\r' := by
  cases v with
  | text s =>
    rcases List.mem_cons.1 h with rfl | h
    · decide
    · rcases List.mem_append.1 h with h | h
      · obtain ⟨c, -, hc⟩ := List.mem_flatMap.1 h
        exact ne_return_of_mem_writeChar hc
      · rw [List.mem_singleton.1 h]
        decide
  | truth b =>
    rintro rfl
    cases b <;> exact absurd h (by decide)
  | number n =>
    rintro rfl
    exact absurd (Number.isDigit_of_mem_toDigits h) (by decide)

/-- Nothing that is written contains a carriage return. -/
theorem return_notMem_write {es : List (String × Literal)} (h : ∀ e ∈ es, Config.Plain e.1) :
    '\r' ∉ es.flatMap writeEntry := by
  intro hmem
  obtain ⟨e, he, hmem⟩ := List.mem_flatMap.1 hmem
  rcases List.mem_append.1 hmem with hkey | hrest
  · exact absurd ((h e he).chars _ hkey) (by decide)
  · simp only [List.mem_cons, List.mem_append, List.not_mem_nil, or_false] at hrest
    rcases hrest with he | he | he | hv | he
    · exact absurd he (by decide)
    · exact absurd he (by decide)
    · exact absurd he (by decide)
    · exact ne_return_of_mem_writeLiteral hv rfl
    · exact absurd he (by decide)

end Marks

/-- Every entry takes some characters. -/
theorem length_le_write (es : List (String × Literal)) : es.length ≤ (es.flatMap writeEntry).length := by
  induction es with
  | nil => exact Nat.le_refl 0
  | cons e es ih =>
    simp only [List.flatMap_cons, List.length_append, List.length_cons, writeEntry]
    omega

/-- A document that can be written is read back: entry by entry, in its order. -/
theorem parse?_write {es : List (String × Literal)} (h : Writable es) :
    parse? (write es) = some (es.map fun e => (e.1, ofLiteral e.2)) := by
  have hmark : dropByteOrderMark (es.flatMap writeEntry) = es.flatMap writeEntry := by
    cases es with
    | nil => rfl
    | cons e es =>
      obtain ⟨c, cs, hcs, hc⟩ := exists_cons_of_plain (h.plain e List.mem_cons_self)
      have hne : c ≠ '\ufeff' := ne_of_isKeyChar hc (by decide)
      rw [List.flatMap_cons, writeEntry, hcs]
      unfold dropByteOrderMark
      split
      next heq => exact absurd (List.cons.inj heq).1 hne
      next => rfl
  have hfuel : es.length < (es.flatMap writeEntry).length + 1 := Nat.lt_succ_of_le (length_le_write es)
  have hlines := lines_write h.plain h.fits hfuel
  have hmap : (es.map fun e => Line.entry [] e.1 (ofLiteral e.2)) =
      (es.map fun e => (e.1, ofLiteral e.2)).map fun e => .entry [] e.1 e.2 := by
    rw [List.map_map]
    rfl
  have hnodup : (Keyed.keys ([] : Branch) ++ Keyed.keys (es.map fun e => (e.1, ofLiteral e.2))).Nodup := by
    simpa [Keyed.keys, Function.comp_def] using h.nodup
  have hbuild := build_entries hnodup
  rw [← hmap, List.nil_append] at hbuild
  unfold parse?
  simp only [write, String.toList_ofList, hmark, returnsEndLines_of_notMem (return_notMem_write h.plain), if_true, hlines]
  rw [Option.bind_eq_bind, Option.bind_some, hbuild, Option.bind_eq_bind, Option.bind_some, finished_leaves]

end Toml

end NamedLock
