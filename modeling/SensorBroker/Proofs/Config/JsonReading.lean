/-
# What is written in JSON is read back

A value is written without blanks in front, and behind it stands a comma, the end
of the line, or nothing. A reader `Reads` what is written if it takes exactly
this from the front of any such text, blanks passed over. Numbers, texts, lists
and objects are read so one after the other: an object makes of a record what
its members make of it in turn.

Key definitions: `Follows`, `Reads`, `Entry`, `Entry.Sound`, `Distinct`.
Key theorems: `reads_whole`, `string_flatMap_escape`, `items_chars`,
`reads_ofKind`, `reads_object`, `reads_record`, `config?_toJson`.
-/
import SensorBroker.Config.Json.Reading
import SensorBroker.Config.Writing
import SensorBroker.Proofs.Config.Digits
import SensorBroker.Proofs.Config.Schema

namespace SensorBroker.Json

open SensorBroker.Text

/-! ## Blanks -/

theorem skipBlank_cons_of_not {c : Char} (h : isBlank c = false) (cs : List Char) :
    skipBlank (c :: cs) = c :: cs := by
  simp [skipBlank, h]

@[simp] theorem skipBlank_closeList (cs : List Char) : skipBlank (']' :: cs) = ']' :: cs :=
  rfl

@[simp] theorem skipBlank_closeObject (cs : List Char) :
    skipBlank ('\x7d' :: cs) = '\x7d' :: cs :=
  rfl

@[simp] theorem skipBlank_comma (cs : List Char) : skipBlank (',' :: cs) = ',' :: cs :=
  rfl

@[simp] theorem skipBlank_quote (cs : List Char) : skipBlank ('"' :: cs) = '"' :: cs :=
  rfl

@[simp] theorem skipBlank_lineEnd (cs : List Char) : skipBlank ('\n' :: cs) = skipBlank cs :=
  rfl

@[simp] theorem skipBlank_space (cs : List Char) : skipBlank (' ' :: cs) = skipBlank cs :=
  rfl

@[simp] theorem skipBlank_blanks (n : Nat) (cs : List Char) :
    skipBlank (blanks n ++ cs) = skipBlank cs := by
  induction n with
  | zero => rfl
  | succ n ih => simpa [blanks, List.replicate_succ] using ih

/-- What stands behind a value that is written. -/
inductive Follows : List Char → Prop
  | comma (cs : List Char) : Follows (',' :: cs)
  | lineEnd (cs : List Char) : Follows ('\n' :: cs)
  | finish : Follows []

/-- A reader takes what is written from every place where it stands, and
nothing more. -/
def Reads {α : Type} (r : Reader α) (written : List Char) (a : α) : Prop :=
  ∀ cs rest, skipBlank cs = written ++ rest → Follows rest → r cs = .ok (a, rest)

/-! ## Whole numbers -/

/-- Digits are all kept if the number they make fits into 64 bits. -/
theorem absorb_eq {ds : List Char} (hds : ∀ d ∈ ds, isDigit d = true) {n : Nat}
    (h : Nat.ofDigitChars 10 ds n < UInt64.size) :
    absorb n ds = (Nat.ofDigitChars 10 ds n, ds.length) := by
  induction ds generalizing n with
  | nil => rfl
  | cons d ds ih =>
    have hd : n * 10 + digitValue d = 10 * n + (d.toNat - '0'.toNat) := by
      rw [digitValue_of_isDigit (hds d (by simp)), Nat.mul_comm]
    rw [Nat.ofDigitChars_cons] at h
    have hle := le_ofDigitChars ds (10 * n + (d.toNat - '0'.toNat))
    have hfits : ¬ UInt64.size ≤ 10 * n + (d.toNat - '0'.toNat) := by omega
    have hrec := ih (fun e he => hds e (by simp [he])) h
    simp only [absorb, hd, hfits, if_false, hrec, Nat.ofDigitChars_cons, List.length_cons]

theorem absorb_toDigits {n : Nat} (h : n < UInt64.size) :
    absorb 0 (Nat.toDigits 10 n) = (n, (Nat.toDigits 10 n).length) := by
  have hds : ∀ d ∈ Nat.toDigits 10 n, isDigit d = true := fun _ hd => isDigit_of_mem_toDigits hd
  have heq := absorb_eq hds (n := 0) (by rw [Nat.ofDigitChars_ten_toDigits]; exact h)
  rwa [Nat.ofDigitChars_ten_toDigits] at heq

/-- The digits of a number are taken as they are. -/
theorem number_toDigits (negative : Bool) {n : Nat} (h : n < UInt64.size) {rest : List Char}
    (hrest : Follows rest) :
    number negative (Nat.toDigits 10 n ++ rest) = afterDigits negative n 0 rest := by
  have hds : ∀ d ∈ Nat.toDigits 10 n, isDigit d = true := fun _ hd => isDigit_of_mem_toDigits hd
  have hend : ∀ c ∈ rest.head?, isDigit c = false := by
    cases hrest <;> simp [isDigit]
  have hne : Nat.toDigits 10 n ≠ [] := Nat.toDigits_ne_nil
  have habsorb := absorb_toDigits h
  have hzero := toDigits_of_head_zero (n := n)
  rw [number, digitsOf_append hds hend]
  generalize Nat.toDigits 10 n = ds at hne habsorb hzero ⊢
  split
  next heq => exact absurd (Prod.mk.inj heq).1 hne
  next heq => exact absurd (Prod.mk.inj heq).1 hne
  next heq =>
    obtain ⟨rfl, -⟩ := Prod.mk.inj heq
    have hone := hzero rfl
    simp at hone
  next heq =>
    obtain ⟨rfl, rfl⟩ := Prod.mk.inj heq
    simp [habsorb]

theorem afterDigits_of_follows {rest : List Char} (hrest : Follows rest) (n : Nat) :
    afterDigits false n 0 rest = .ok (.whole n, rest) := by
  cases hrest <;> simp [afterDigits]

theorem afterDigits_neg_of_follows {rest : List Char} (hrest : Follows rest) {n : Nat}
    (hpos : 1 ≤ n) (hmax : n ≤ Nat.pow 2 63) :
    afterDigits true n 0 rest = .ok (.whole (-n), rest) := by
  cases hrest <;> simp [afterDigits, hpos, hmax]

theorem isBlank_of_isDigit {c : Char} (h : isDigit c = true) : isBlank c = false := by
  by_contra hblank
  simp only [isBlank, Bool.not_eq_false, Bool.or_eq_true, decide_eq_true_eq] at hblank
  obtain ((rfl | rfl) | rfl) | rfl := hblank <;> simp [isDigit] at h

/-- A whole number is read back. -/
theorem reads_whole {t : WholeType} {n : Int} (h : t.Fits n) :
    Reads (whole t) (toString n).toList n := by
  intro cs rest hcs hrest
  have hlow : -2 ^ 63 ≤ n := h.low
  have hhigh : n < 2 ^ 64 := h.high
  have hsize : UInt64.size = 2 ^ 64 := rfl
  obtain ⟨k, rfl, hk⟩ | ⟨k, hpos, rfl, hk⟩ := toString_cases n
  · obtain ⟨d, ds, hds, hd⟩ := toDigits_eq_cons k
    have hnum := number_toDigits false (n := k) (by omega) hrest
    rw [afterDigits_of_follows hrest] at hnum
    rw [hk] at hcs
    rw [hds, List.cons_append] at hcs hnum
    rw [whole, hcs]
    split
    next heq =>
      obtain ⟨rfl, -⟩ := List.cons.inj heq
      simp [isDigit] at hd
    next heq =>
      obtain ⟨rfl, rfl⟩ := List.cons.inj heq
      simp only [hd, if_true, hnum]
      simp [bind, Except.bind, placed, h.allowed]
    next heq => simp at heq
  · have hmax : k ≤ Nat.pow 2 63 := by
      have hpow : Nat.pow 2 63 = 2 ^ 63 := rfl
      omega
    have hnum := number_toDigits true (n := k) (by omega) hrest
    rw [afterDigits_neg_of_follows hrest (by omega) hmax] at hnum
    rw [hk, List.cons_append] at hcs
    simp [whole, hcs, hnum, bind, Except.bind, placed, h.allowed]

/-! ## Texts -/

/-- The digits of a control character stand for it. -/
theorem hex_control {n : Nat} (h : n < 32) (cs : List Char) :
    hex ('0' :: '0' :: hexDigit (n / 16) :: hexDigit (n % 16) :: cs) = .ok (n, cs) := by
  have hall : ∀ n < 32,
      byteCount ['0', '0', hexDigit (n / 16), hexDigit (n % 16)] = 4 ∧
      ['0', '0', hexDigit (n / 16), hexDigit (n % 16)].all isHexDigit = true ∧
      ofDigits 16 ['0', '0', hexDigit (n / 16), hexDigit (n % 16)] = n := by
    decide
  obtain ⟨hcount, hdigits, hvalue⟩ := hall n h
  simp only [hex, List.take, List.drop, hcount, hdigits, hvalue]
  rfl

theorem charOf?_toNat (c : Char) : charOf? c.toNat = some c := by
  have hvalid : c.toNat.isValidChar := c.valid
  simp [charOf?, hvalid]

/-- An escape is taken as the character that it stands for. -/
theorem textFuel_of_unescape {c : Char} {cs rest : List Char} (h : unescape cs = .ok (c, rest))
    (fuel : Nat) :
    textFuel (fuel + 1) ('\\' :: cs) = (textFuel fuel rest).map fun r => (c :: r.1, r.2) := by
  simp only [textFuel, h, bind, Except.bind]
  cases textFuel fuel rest <;> rfl

/-- A character that needs no escape is taken as it is. -/
theorem textFuel_of_plain {c : Char} (hquote : c ≠ '"') (hslash : c ≠ '\\') (hcontrol : ¬ c < ' ')
    (fuel : Nat) (cs : List Char) :
    textFuel (fuel + 1) (c :: cs) = (textFuel fuel cs).map fun r => (c :: r.1, r.2) := by
  rw [textFuel, if_neg hcontrol]
  · cases textFuel fuel cs <;> rfl
  · exact hquote
  · exact hslash

/-- A character is read back as it is written. -/
theorem textFuel_escape (fuel : Nat) (c : Char) (cs : List Char) :
    textFuel (fuel + 1) (escape c ++ cs) = (textFuel fuel cs).map fun r => (c :: r.1, r.2) := by
  unfold escape
  split_ifs with hquote hslash hback htab hline hform hreturn hcontrol
  case pos => subst hquote; exact textFuel_of_unescape rfl fuel
  case pos => subst hslash; exact textFuel_of_unescape rfl fuel
  case pos => subst hback; exact textFuel_of_unescape rfl fuel
  case pos => subst htab; exact textFuel_of_unescape rfl fuel
  case pos => subst hline; exact textFuel_of_unescape rfl fuel
  case pos => subst hform; exact textFuel_of_unescape rfl fuel
  case pos => subst hreturn; exact textFuel_of_unescape rfl fuel
  case pos =>
    have hlt : c.toNat < 32 := hcontrol
    apply textFuel_of_unescape
    simp [unescape, hex_control hlt, charOf?_toNat, bind, Except.bind]
  case neg => exact textFuel_of_plain hquote hslash hcontrol fuel cs

theorem textFuel_flatMap_escape (s : List Char) (rest : List Char) {fuel : Nat}
    (h : s.length < fuel) :
    textFuel fuel (s.flatMap escape ++ '"' :: rest) = .ok (s, rest) := by
  induction s generalizing fuel with
  | nil =>
    obtain ⟨fuel, rfl⟩ := Nat.exists_eq_succ_of_ne_zero (by omega : fuel ≠ 0)
    rfl
  | cons c s ih =>
    obtain ⟨fuel, rfl⟩ := Nat.exists_eq_succ_of_ne_zero (by omega : fuel ≠ 0)
    have hrec := ih (by simpa using h : s.length < fuel)
    rw [List.flatMap_cons, List.append_assoc, textFuel_escape, hrec]
    rfl

theorem length_le_flatMap_escape (s : List Char) : s.length ≤ (s.flatMap escape).length := by
  induction s with
  | nil => simp
  | cons c s ih =>
    have hc : 1 ≤ (escape c).length := by
      unfold escape
      split_ifs <;> simp
    simp only [List.flatMap_cons, List.length_append, List.length_cons]
    omega

/-- **A text is read back.** Whatever characters a text has, what is written
behind the opening quote is read as the text. -/
theorem string_flatMap_escape (s : String) (rest : List Char) :
    string (s.toList.flatMap escape ++ '"' :: rest) = .ok (s, rest) := by
  have hfuel := length_le_flatMap_escape s.toList
  have hlength : s.toList.length < (s.toList.flatMap escape ++ '"' :: rest).length + 1 := by
    simp only [List.length_append, List.length_cons]
    omega
  rw [string, textFuel_flatMap_escape s.toList rest hlength]
  simp [bind, Except.bind]

/-! ## Values -/

/-- What is written of a tree begins with no blank, and with no end of a list. -/
theorem Tree.chars_eq_cons (indent : Nat) (t : Tree) :
    ∃ c cs, t.chars indent = c :: cs ∧ isBlank c = false ∧ c ≠ ']' := by
  match t with
  | .truth true => exact ⟨'t', _, by rw [Tree.chars]; rfl, by decide, by decide⟩
  | .truth false => exact ⟨'f', _, by rw [Tree.chars]; rfl, by decide, by decide⟩
  | .number n =>
    obtain ⟨k, rfl, hk⟩ | ⟨k, _, rfl, hk⟩ := toString_cases n
    · obtain ⟨d, ds, hds, hd⟩ := toDigits_eq_cons k
      refine ⟨d, ds, by rw [Tree.chars, hk, hds], isBlank_of_isDigit hd, ?_⟩
      rintro rfl
      simp [isDigit] at hd
    · exact ⟨'-', _, by rw [Tree.chars, hk], by decide, by decide⟩
  | .text s => exact ⟨'"', _, by rw [Tree.chars, quote]; rfl, by decide, by decide⟩
  | .list [] => exact ⟨'[', _, by rw [Tree.chars], by decide, by decide⟩
  | .list (t :: ts) => exact ⟨'[', _, by rw [Tree.chars]; rfl, by decide, by decide⟩
  | .object [] => exact ⟨'\x7b', _, by rw [Tree.chars], by decide, by decide⟩
  | .object ((name, t) :: ms) =>
    exact ⟨'\x7b', _, by rw [Tree.chars]; rfl, by decide, by decide⟩

theorem skipBlank_chars (indent : Nat) (t : Tree) (cs : List Char) :
    skipBlank (t.chars indent ++ cs) = t.chars indent ++ cs := by
  obtain ⟨c, ws, hchars, hblank, -⟩ := t.chars_eq_cons indent
  rw [hchars, List.cons_append, skipBlank_cons_of_not hblank]

/-! ## Lists -/

theorem follows_itemsChars (indent : Nat) (ts : List Tree) (cs : List Char) :
    Follows (Tree.itemsChars indent ts ++ '\n' :: cs) := by
  cases ts with
  | nil => rw [Tree.itemsChars]; exact .lineEnd cs
  | cons t ts => rw [Tree.itemsChars]; exact .comma _

theorem nextItem_end (first : Bool) (back : Nat) (rest : List Char) :
    nextItem first ('\n' :: (blanks back ++ ']' :: rest)) = .ok none := by
  simp [nextItem]

theorem endList_end (back : Nat) (rest : List Char) :
    endList ('\n' :: (blanks back ++ ']' :: rest)) = .ok rest := by
  simp [endList]

/-- The first item of a list stands on the line below its bracket. -/
theorem nextItem_first (indent : Nat) (t : Tree) (cs : List Char) :
    nextItem true ('\n' :: (blanks indent ++ (t.chars indent ++ cs))) =
      .ok (some (t.chars indent ++ cs)) := by
  obtain ⟨c, ws, hchars, hblank, hend⟩ := t.chars_eq_cons indent
  have hskip : skipBlank (c :: (ws ++ cs)) = c :: (ws ++ cs) := skipBlank_cons_of_not hblank _
  simp [nextItem, hchars, hskip]

/-- A further item stands on the line below the comma. -/
theorem nextItem_next (indent : Nat) (t : Tree) (cs : List Char) :
    nextItem false (',' :: '\n' :: (blanks indent ++ (t.chars indent ++ cs))) =
      .ok (some (t.chars indent ++ cs)) := by
  obtain ⟨c, ws, hchars, hblank, hend⟩ := t.chars_eq_cons indent
  have hskip : skipBlank (c :: (ws ++ cs)) = c :: (ws ++ cs) := skipBlank_cons_of_not hblank _
  simp [nextItem, hchars, hskip, hend]

/-- Further items are read up to the end of the list. -/
theorem items_itemsChars {α : Type} {item : Reader α} {indent : Nat} {ts : List Tree}
    {as : List α} (h : List.Forall₂ (fun t a => Reads item (t.chars indent) a) ts as)
    (back : Nat) (rest : List Char) {fuel : Nat} (hfuel : ts.length < fuel) :
    items item fuel false (Tree.itemsChars indent ts ++ '\n' :: (blanks back ++ ']' :: rest)) =
      .ok (as, rest) := by
  induction h generalizing fuel with
  | nil =>
    obtain ⟨fuel, rfl⟩ := Nat.exists_eq_succ_of_ne_zero (by omega : fuel ≠ 0)
    simp [items, Tree.itemsChars, nextItem_end, endList_end, bind, Except.bind, Except.map]
  | @cons t a ts as hread _ ih =>
    obtain ⟨fuel, rfl⟩ := Nat.exists_eq_succ_of_ne_zero (by omega : fuel ≠ 0)
    have hitem := hread _ _ (skipBlank_chars indent t _)
      (follows_itemsChars indent ts (blanks back ++ ']' :: rest))
    have hrec := ih (by simpa using hfuel : ts.length < fuel)
    simp [items, Tree.itemsChars, nextItem_next, hitem, hrec, bind, Except.bind]

/-- A list of at least one item is read from behind its bracket. -/
theorem items_chars {α : Type} {item : Reader α} {indent : Nat} {t : Tree} {a : α}
    (hread : Reads item (t.chars indent) a) {ts : List Tree} {as : List α}
    (h : List.Forall₂ (fun t a => Reads item (t.chars indent) a) ts as)
    (back : Nat) (rest : List Char) {fuel : Nat} (hfuel : ts.length + 1 < fuel) :
    items item fuel true ('\n' :: (blanks indent ++ (t.chars indent ++
      (Tree.itemsChars indent ts ++ '\n' :: (blanks back ++ ']' :: rest))))) =
      .ok (a :: as, rest) := by
  obtain ⟨fuel, rfl⟩ := Nat.exists_eq_succ_of_ne_zero (by omega : fuel ≠ 0)
  have hitem := hread _ _ (skipBlank_chars indent t _)
    (follows_itemsChars indent ts (blanks back ++ ']' :: rest))
  have hitems := items_itemsChars h back rest (by omega : ts.length < fuel)
  simp [items, nextItem_first, hitem, hitems, bind, Except.bind]

theorem length_le_itemsChars (indent : Nat) (ts : List Tree) :
    ts.length ≤ (Tree.itemsChars indent ts).length := by
  induction ts with
  | nil => simp
  | cons t ts ih =>
    rw [Tree.itemsChars]
    simp only [List.length_cons, List.length_append]
    omega

/-- A list of sensors is read back. -/
theorem reads_sensors (indent : Nat) (ids : List SensorId) :
    Reads sensors ((Kind.tree .sensors ids).chars indent) ids := by
  intro cs rest hcs _
  cases ids with
  | nil =>
    have hopen : skipBlank cs = '[' :: ']' :: rest := by
      simpa [Kind.tree, Tree.chars] using hcs
    simp [sensors, hopen, items, nextItem, endList, bind, Except.bind, Except.map]
  | cons id ids =>
    let tree (s : SensorId) : Tree := .number s.toInt
    have hread (s : SensorId) :
        Reads (whole .signed32) ((tree s).chars (indent + 2)) s.toInt := by
      simpa only [tree, Tree.chars] using reads_whole s.fits_toInt
    have htail : List.Forall₂ (fun t n => Reads (whole .signed32) (t.chars (indent + 2)) n)
        (ids.map tree) (ids.map SensorId.toInt) := by
      simp only [List.forall₂_map_left_iff, List.forall₂_map_right_iff, List.forall₂_same]
      exact fun s _ => hread s
    have hopen : skipBlank cs = '[' :: '\n' :: (blanks (indent + 2) ++
        ((tree id).chars (indent + 2) ++ (Tree.itemsChars (indent + 2) (ids.map tree) ++
          '\n' :: (blanks indent ++ ']' :: rest)))) := by
      simpa [Kind.tree, Tree.chars, tree] using hcs
    have hlength := length_le_itemsChars (indent + 2) (ids.map tree)
    simp only [sensors, hopen]
    rw [items_chars (hread id) htail indent rest]
    · simp [bind, Except.bind, Function.comp_def]
    · simp only [List.length_cons, List.length_append]
      omega

/-- A backend is read back. -/
theorem reads_backend (indent : Nat) (b : BackendKind) :
    Reads backend ((Kind.tree .backend b).chars indent) b := by
  intro cs rest hcs _
  have hopen : skipBlank cs = '"' :: (b.name.toList.flatMap escape ++ '"' :: rest) := by
    simpa [Kind.tree, Tree.chars, quote] using hcs
  simp [backend, hopen, backendName, string_flatMap_escape, BackendKind.named_name, placed,
    bind, Except.bind]

/-- A value is read back as its kind. -/
theorem reads_ofKind (indent : Nat) {k : Kind} {v : k.Value} (h : k.Fits v) :
    Reads (ofKind k) ((k.tree v).chars indent) v :=
  match k, v, h with
  | .whole t, n, h => by
    rw [Kind.tree, Tree.chars]
    exact reads_whole h
  | .sensors, ids, _ => reads_sensors indent ids
  | .backend, b, _ => reads_backend indent b

/-! ## Records -/

variable {σ : Type}

/-- What is written for a slot of a record, and what becomes of the record. -/
structure Entry (σ : Type) where
  slot : Slot σ
  tree : Tree
  change : σ → σ

/-- An entry as a member of an object. -/
def Entry.member (e : Entry σ) : String × Tree :=
  (e.slot.name, e.tree)

/-- The slot reads what is written for it. -/
def Entry.Sound (e : Entry σ) : Prop :=
  ∀ indent, Reads e.slot.read (e.tree.chars indent) e.change

theorem follows_membersChars (indent : Nat) (ms : List (String × Tree)) (cs : List Char) :
    Follows (Tree.membersChars indent ms ++ '\n' :: cs) := by
  cases ms with
  | nil => rw [Tree.membersChars]; exact .lineEnd cs
  | cons m ms => rw [Tree.membersChars]; exact .comma _

theorem nextName_end (first : Bool) (back : Nat) (rest : List Char) :
    nextName first ('\n' :: (blanks back ++ '\x7d' :: rest)) = .ok none := by
  simp [nextName]

/-- The first name of an object stands on the line below its brace. -/
theorem nextName_first (indent : Nat) (cs : List Char) :
    nextName true ('\n' :: (blanks indent ++ '"' :: cs)) = .ok (some cs) := by
  simp [nextName]

/-- A further name stands on the line below the comma. -/
theorem nextName_next (indent : Nat) (cs : List Char) :
    nextName false (',' :: '\n' :: (blanks indent ++ '"' :: cs)) = .ok (some cs) := by
  simp [nextName]

/-- Entries for slots with distinct names, each read by its own. -/
structure Distinct (slots : List (Slot σ)) (es : List (Entry σ)) : Prop where
  names : (es.map fun e => e.slot.name).Nodup
  known : ∀ e ∈ es, e.slot ∈ slots
  sound : ∀ e ∈ es, e.Sound

theorem Distinct.tail {slots : List (Slot σ)} {e : Entry σ} {es : List (Entry σ)}
    (h : Distinct slots (e :: es)) : Distinct slots es where
  names := (List.nodup_cons.mp h.names).2
  known := (List.forall_mem_cons.mp h.known).2
  sound := (List.forall_mem_cons.mp h.sound).2

theorem Distinct.name_ne {slots : List (Slot σ)} {e : Entry σ} {es : List (Entry σ)}
    (h : Distinct slots (e :: es)) : ∀ d ∈ es, d.slot.name ≠ e.slot.name := by
  intro d hd heq
  exact (List.nodup_cons.mp h.names).1 (List.mem_map.mpr ⟨d, hd, heq⟩)

/-- A member changes the record and leaves what stands behind it. -/
theorem members_member {slots : List (Slot σ)} (hslots : (slots.map Slot.name).Nodup)
    {e : Entry σ} (hmem : e.slot ∈ slots) (hsound : e.Sound) {seen : List String}
    (hseen : e.slot.name ∉ seen) (indent : Nat) {first : Bool} {cs rest : List Char}
    (hname : nextName first cs = .ok (some (e.slot.name.toList.flatMap escape ++
      '"' :: ':' :: ' ' :: (e.tree.chars indent ++ rest)))) (hrest : Follows rest)
    (fuel : Nat) (s : σ) :
    members slots (fuel + 1) seen first s cs =
      members slots fuel (e.slot.name :: seen) false (e.change s) rest := by
  have hfind := find?_name hslots hmem
  have hcolon : colon (':' :: ' ' :: (e.tree.chars indent ++ rest)) =
      .ok (' ' :: (e.tree.chars indent ++ rest)) := rfl
  have hread := hsound indent (' ' :: (e.tree.chars indent ++ rest)) rest
    (by rw [skipBlank_space, skipBlank_chars]) hrest
  simp [members, hname, string_flatMap_escape, hfind, hseen, hcolon, hread, bind, Except.bind]

/-- Further members change the record in turn, up to the end of the object. -/
theorem members_membersChars {slots : List (Slot σ)} (hslots : (slots.map Slot.name).Nodup)
    (indent back : Nat) (rest : List Char) {es : List (Entry σ)} (hes : Distinct slots es)
    {seen : List String} (hseen : ∀ e ∈ es, e.slot.name ∉ seen) {fuel : Nat}
    (hfuel : es.length < fuel) (s : σ) :
    members slots fuel seen false s
      (Tree.membersChars indent (es.map Entry.member) ++ '\n' :: (blanks back ++ '\x7d' :: rest)) =
      .ok ((es.map Entry.change).foldl (fun s change => change s) s, rest) := by
  induction es generalizing seen fuel s with
  | nil =>
    obtain ⟨fuel, rfl⟩ := Nat.exists_eq_succ_of_ne_zero (by omega : fuel ≠ 0)
    simp [members, Tree.membersChars, nextName_end, bind, Except.bind]
  | cons e es ih =>
    obtain ⟨fuel, rfl⟩ := Nat.exists_eq_succ_of_ne_zero (by omega : fuel ≠ 0)
    obtain ⟨hnew, hseen⟩ := List.forall_mem_cons.mp hseen
    have hseen' : ∀ d ∈ es, d.slot.name ∉ e.slot.name :: seen := by
      intro d hd hin
      obtain heq | hin := List.mem_cons.mp hin
      · exact hes.name_ne d hd heq
      · exact hseen d hd hin
    have hfollows := follows_membersChars indent (es.map Entry.member)
      (blanks back ++ '\x7d' :: rest)
    have hstep := members_member hslots (hes.known e (by simp)) (hes.sound e (by simp)) hnew indent
      (nextName_next indent _) hfollows fuel s
    rw [ih hes.tail hseen' (by simpa using hfuel)] at hstep
    simpa [Tree.membersChars, Entry.member, quote] using hstep

/-- An object of at least one member is read from behind its brace. -/
theorem members_chars {slots : List (Slot σ)} (hslots : (slots.map Slot.name).Nodup)
    (indent back : Nat) (rest : List Char) {e : Entry σ} {es : List (Entry σ)}
    (hes : Distinct slots (e :: es)) {fuel : Nat} (hfuel : es.length + 1 < fuel) (s : σ) :
    members slots fuel [] true s ('\n' :: (blanks indent ++
      (quote e.slot.name ++ ':' :: ' ' :: (e.tree.chars indent ++
        (Tree.membersChars indent (es.map Entry.member) ++
          '\n' :: (blanks back ++ '\x7d' :: rest)))))) =
      .ok (((e :: es).map Entry.change).foldl (fun s change => change s) s, rest) := by
  obtain ⟨fuel, rfl⟩ := Nat.exists_eq_succ_of_ne_zero (by omega : fuel ≠ 0)
  have hseen : ∀ d ∈ es, d.slot.name ∉ [e.slot.name] := by
    intro d hd
    simpa using hes.name_ne d hd
  have hfollows := follows_membersChars indent (es.map Entry.member)
    (blanks back ++ '\x7d' :: rest)
  have hstep := members_member hslots (hes.known e (by simp)) (hes.sound e (by simp))
    List.not_mem_nil indent (nextName_first indent _) hfollows fuel s
  rw [members_membersChars hslots indent back rest hes.tail hseen (by omega)] at hstep
  simpa [quote] using hstep

theorem length_le_membersChars (indent : Nat) (ms : List (String × Tree)) :
    ms.length ≤ (Tree.membersChars indent ms).length := by
  induction ms with
  | nil => simp
  | cons m ms ih =>
    rw [Tree.membersChars]
    simp only [List.length_cons, List.length_append]
    omega

/-- **An object is read member by member.** What is written for slots with
distinct names changes the record in the order in which it is written. -/
theorem reads_object (title : String) (default : σ) {es : List (Entry σ)}
    (hnames : (es.map fun e => e.slot.name).Nodup) (hsound : ∀ e ∈ es, e.Sound) (indent : Nat) :
    Reads (record title (es.map Entry.slot) default)
      ((Tree.object (es.map Entry.member)).chars indent)
      ((es.map Entry.change).foldl (fun s change => change s) default) := by
  intro cs rest hcs _
  have hslots : ((es.map Entry.slot).map Slot.name).Nodup := by
    simpa [Function.comp_def] using hnames
  have hes : Distinct (es.map Entry.slot) es :=
    ⟨hnames, fun e he => List.mem_map.mpr ⟨e, he, rfl⟩, hsound⟩
  cases es with
  | nil =>
    have hopen : skipBlank cs = '\x7b' :: '\x7d' :: rest := by
      simpa [Tree.chars] using hcs
    simp [record, hopen, members, nextName, bind, Except.bind]
  | cons e es =>
    have hopen : skipBlank cs = '\x7b' :: '\n' :: (blanks (indent + 2) ++
        (quote e.slot.name ++ ':' :: ' ' :: (e.tree.chars (indent + 2) ++
          (Tree.membersChars (indent + 2) (es.map Entry.member) ++
            '\n' :: (blanks indent ++ '\x7d' :: rest))))) := by
      simpa [Tree.chars, Entry.member] using hcs
    have hlength := length_le_membersChars (indent + 2) (es.map Entry.member)
    rw [List.length_map] at hlength
    simp only [record, hopen]
    apply members_chars hslots (indent + 2) indent rest hes
    simp only [List.length_cons, List.length_append]
    omega

/-- A record comes back from an object that has all of it. -/
theorem reads_record (title : String) (default : σ) {es : List (Entry σ)}
    (hnames : (es.map fun e => e.slot.name).Nodup) (hsound : ∀ e ∈ es, e.Sound) {s : σ}
    (hs : Restores (es.map Entry.change) s) (indent : Nat) :
    Reads (record title (es.map Entry.slot) default)
      ((Tree.object (es.map Entry.member)).chars indent) s := by
  have hread := reads_object title default hnames hsound indent
  rwa [hs _ (List.Perm.refl _)] at hread

/-! ## Configurations -/

/-- A setting of a record as an entry. -/
def fieldEntry (s : σ) (f : Field σ) : Entry σ :=
  ⟨slotOf f, f.kind.tree (f.get s), f.put (f.get s)⟩

theorem sound_fieldEntry {s : σ} {f : Field σ} (h : f.kind.Fits (f.get s)) :
    (fieldEntry s f).Sound := by
  intro indent cs rest hcs hrest
  have hread := reads_ofKind indent h cs rest hcs hrest
  simp [fieldEntry, slotOf, hread, Except.map]

/-- A section of a configuration as an entry. -/
def partEntry (c : Config) (p : Part) : Entry Config :=
  ⟨sectionOf p, .object ((p.layout.fields.map (fieldEntry (p.get c))).map Entry.member),
    p.put (p.get c)⟩

/-- A section is read back, whatever its defaults are. -/
theorem sound_partEntry (c : Config) {p : Part} (h : p.layout.Lawful) :
    (partEntry c p).Sound := by
  intro indent cs rest hcs hrest
  let es := p.layout.fields.map (fieldEntry (p.get c))
  have hslots : es.map Entry.slot = p.layout.fields.map slotOf := by
    simp [es, fieldEntry, Function.comp_def]
  have hnames : (es.map fun e => e.slot.name).Nodup := by
    simpa [es, fieldEntry, slotOf, Function.comp_def] using h.distinct
  have hsound : ∀ e ∈ es, e.Sound := by
    intro e he
    obtain ⟨f, hf, rfl⟩ := List.mem_map.mp he
    exact sound_fieldEntry (h.fits f hf (p.get c))
  have hs : Restores (es.map Entry.change) (p.get c) := by
    simpa [es, fieldEntry, Layout.changes, Function.comp_def] using h.restores (p.get c)
  have hread := reads_record p.layout.title p.default hnames hsound hs indent cs rest hcs hrest
  rw [hslots] at hread
  simp [partEntry, sectionOf, hread, Except.map]

theorem tree_eq_object (c : Config) :
    c.tree = .object ((Config.parts.map (partEntry c)).map Entry.member) := by
  simp [Config.tree, Config.outline, Layout.settings, partEntry, fieldEntry, Entry.member,
    sectionOf, slotOf, Function.comp_def]

/-- A configuration is read back, and nothing is left. -/
theorem config_chars (c : Config) : config (c.tree.chars 0) = .ok (c, []) := by
  let es := Config.parts.map (partEntry c)
  have hslots : es.map Entry.slot = Config.parts.map sectionOf := by
    simp [es, partEntry, Function.comp_def]
  have hnames : (es.map fun e => e.slot.name).Nodup := by
    simpa [es, partEntry, sectionOf, Function.comp_def] using Config.distinct_parts
  have hsound : ∀ e ∈ es, e.Sound := by
    intro e he
    obtain ⟨p, hp, rfl⟩ := List.mem_map.mp he
    exact sound_partEntry c (Config.lawful_of_mem_parts p hp)
  have hs : Restores (es.map Entry.change) c := by
    simpa [es, partEntry, Config.changes, Function.comp_def] using c.restores_changes
  have hcs : skipBlank (c.tree.chars 0) = (Tree.object (es.map Entry.member)).chars 0 ++ [] := by
    have hskip := skipBlank_chars 0 c.tree []
    rw [List.append_nil] at hskip
    rw [hskip, List.append_nil, tree_eq_object c]
  have hread := reads_record Config.title {} hnames hsound hs 0 _ _ hcs .finish
  rwa [hslots] at hread

/-- **What is written in JSON is read back.** Every setting has the value that was
written, whatever its default is. -/
theorem config?_toJson (c : Config) : config? c.toJson = .ok c := by
  simp [config?, Config.toJson, Tree.render, config_chars, skipBlank, bind, Except.bind,
    Except.mapError]

end SensorBroker.Json
