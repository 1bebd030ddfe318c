/-
# The tokens of a written TOML document

A document that is written falls into the pieces of which it is put together:
brackets, names and numbers as words, equals signs, texts in quotes, commas,
blanks and ends of lines. Names and numbers are words as long as they are, since
what stands behind them ends a word.

Key definitions: `Fragment`, `layOut`, `Cuts`, `numberFragments`,
`valueFragments`, `settingFragments`, `sectionFragments`, `documentFragments`.
Key theorems: `Cuts.cons`, `Cuts.word`, `Cuts.text`, `Cuts.value`, `Cuts.block`,
`cuts_toToml`.
-/
import SensorBroker.Config.Toml.Text
import SensorBroker.Config.Writing
import SensorBroker.Proofs.Config.Digits
import SensorBroker.Proofs.Config.Schema

namespace SensorBroker.Toml

open SensorBroker.Text

/-! ## Pieces -/

/-- The kind and the characters of a token, wherever it stands. -/
abbrev Fragment := Mark × List Char

/-- Tokens one behind the other from a place on, and the end. -/
def layOut : Nat → List Fragment → List Token
  | start, [] => [⟨.finish, start, []⟩]
  | start, (m, cs) :: fs => ⟨m, start, cs⟩ :: layOut (start + cs.length) fs

theorem length_layOut (start : Nat) (fs : List Fragment) :
    (layOut start fs).length = fs.length + 1 := by
  induction fs generalizing start with
  | nil => rfl
  | cons f fs ih => simp [layOut, ih]

/-- Characters fall into pieces, wherever they stand. -/
def Cuts (cs : List Char) (fs : List Fragment) : Prop :=
  ∀ start, scan start cs = layOut start fs

theorem Cuts.nil : Cuts [] [] := by
  intro start
  simp [scan, layOut]

/-- The first piece is as long as its shape says. -/
theorem Cuts.cons {c : Char} (ws : List Char) {cs : List Char} {m : Mark} {fs : List Fragment}
    (hshape : shape c (ws ++ cs) = (m, ws.length)) (h : Cuts cs fs) :
    Cuts (c :: (ws ++ cs)) ((m, c :: ws) :: fs) := by
  intro start
  have hstop : start + 1 + ws.length = start + (c :: ws).length := by
    simp only [List.length_cons]
    omega
  rw [scan, hshape]
  simp [layOut, hstop, h _]

/-! ## Marks -/

section Marks

variable {cs : List Char} {fs : List Fragment}

theorem Cuts.openList (h : Cuts cs fs) : Cuts ('[' :: cs) ((.openList, ['[']) :: fs) :=
  Cuts.cons [] rfl h

theorem Cuts.closeList (h : Cuts cs fs) : Cuts (']' :: cs) ((.closeList, [']']) :: fs) :=
  Cuts.cons [] rfl h

theorem Cuts.equals (h : Cuts cs fs) : Cuts ('=' :: cs) ((.equals, ['=']) :: fs) :=
  Cuts.cons [] rfl h

theorem Cuts.comma (h : Cuts cs fs) : Cuts (',' :: cs) ((.comma, [',']) :: fs) :=
  Cuts.cons [] rfl h

theorem Cuts.lineEnd (h : Cuts cs fs) : Cuts ('\n' :: cs) ((.lineEnd, ['\n']) :: fs) :=
  Cuts.cons [] rfl h

end Marks

/-! ## Words, blanks and texts -/

theorem ne_of_isNameChar {c d : Char} (h : isNameChar c = true) (hd : isNameChar d = false) :
    c ≠ d := by
  rintro rfl
  simp [h] at hd

theorem isNameChar_of_isDigit {c : Char} (h : isDigit c = true) : isNameChar c = true := by
  simp [isNameChar, h]

/-- No character of a name ends a word. -/
theorem endsWord_of_isNameChar {c : Char} (h : isNameChar c = true) : endsWord c = false := by
  have hall : (['.', '=', ',', '[', ']', '\x7b', '\x7d', ' ', '\t', '#', '\r', '\n'].all
      fun d => !isNameChar d) = true := by decide
  by_contra hends
  rw [Bool.not_eq_false, endsWord, List.contains_iff_mem] at hends
  have hnot := List.all_eq_true.mp hall c hends
  simp [h] at hnot

theorem isBlank_of_isNameChar {c : Char} (h : isNameChar c = true) : isBlank c = false := by
  simp [isBlank, ne_of_isNameChar h (d := ' ') (by decide),
    ne_of_isNameChar h (d := '\t') (by decide)]

/-- A character of a name begins a word. -/
theorem shape_of_isNameChar {c : Char} (h : isNameChar c = true) (cs : List Char) :
    shape c cs = (.word, (cs.takeWhile fun c => !endsWord c).length) := by
  have hne : ∀ d, isNameChar d = false → c ≠ d := fun d hd => ne_of_isNameChar h hd
  simp [shape, isBlank_of_isNameChar h, hne '.' (by decide), hne '=' (by decide),
    hne ',' (by decide), hne '[' (by decide), hne ']' (by decide), hne '\x7b' (by decide),
    hne '\x7d' (by decide), hne '#' (by decide), hne '\n' (by decide), hne '\r' (by decide),
    hne '\'' (by decide), hne '"' (by decide)]

/-- Characters of a name make one word, where something ends it. -/
theorem Cuts.word {w : List Char} (hw : w ≠ []) (hname : ∀ c ∈ w, isNameChar c = true)
    {cs : List Char} (hend : ∀ c ∈ cs.head?, endsWord c = true) {fs : List Fragment}
    (h : Cuts cs fs) : Cuts (w ++ cs) ((.word, w) :: fs) := by
  obtain ⟨d, ws, rfl⟩ := List.exists_cons_of_ne_nil hw
  obtain ⟨hd, hws⟩ := List.forall_mem_cons.mp hname
  have hinside : ∀ c ∈ ws, (!endsWord c) = true := by
    intro c hc
    simp [endsWord_of_isNameChar (hws c hc)]
  have houtside : (cs.takeWhile fun c => !endsWord c) = [] := by
    cases cs with
    | nil => rfl
    | cons c cs => simp [hend c (by simp)]
  apply Cuts.cons _ _ h
  rw [shape_of_isNameChar hd, List.takeWhile_append_of_pos hinside, houtside, List.append_nil]

/-- Blanks in a row make one piece. -/
theorem Cuts.blanks (n : Nat) {cs : List Char} (hend : ∀ c ∈ cs.head?, isBlank c = false)
    {fs : List Fragment} (h : Cuts cs fs) :
    Cuts (List.replicate (n + 1) ' ' ++ cs) ((.blank, List.replicate (n + 1) ' ') :: fs) := by
  have hinside : ∀ c ∈ List.replicate n ' ', isBlank c = true := by
    intro c hc
    rw [List.eq_of_mem_replicate hc]
    rfl
  have houtside : cs.takeWhile isBlank = [] := by
    cases cs with
    | nil => rfl
    | cons c cs => simp [hend c (by simp)]
  have hspace : shape ' ' (List.replicate n ' ' ++ cs) =
      (.blank, ((List.replicate n ' ' ++ cs).takeWhile isBlank).length) := rfl
  rw [List.replicate_succ]
  apply Cuts.cons _ _ h
  rw [hspace, List.takeWhile_append_of_pos hinside, houtside, List.append_nil]

/-- A text in quotes ends with the quote behind it. -/
theorem shortWidth_of_isNameChar {w : List Char} (hname : ∀ c ∈ w, isNameChar c = true)
    (cs : List Char) : shortWidth .basic (w ++ '"' :: cs) = w.length + 1 := by
  induction w with
  | nil => rfl
  | cons c w ih =>
    obtain ⟨hc, hw⟩ := List.forall_mem_cons.mp hname
    have hquote : c ≠ '"' := ne_of_isNameChar hc (by decide)
    have hslash : c ≠ '\\' := ne_of_isNameChar hc (by decide)
    have hline : c ≠ '\n' := ne_of_isNameChar hc (by decide)
    have hmark : Quotes.basic.mark = '"' := rfl
    rw [List.cons_append, shortWidth, hmark, if_neg hquote, ih hw, List.length_cons]
    · omega
    · exact hline
    · exact fun heq => absurd heq hslash
    · exact fun _ _ heq => absurd heq hslash

/-- A text of name characters is one piece with its quotes. -/
theorem Cuts.text {w : List Char} (hw : w ≠ []) (hname : ∀ c ∈ w, isNameChar c = true)
    {cs : List Char} {fs : List Fragment} (h : Cuts cs fs) :
    Cuts ('"' :: (w ++ '"' :: cs)) ((.text .basic, '"' :: (w ++ ['"'])) :: fs) := by
  have hwidth := shortWidth_of_isNameChar hname cs
  have hsplit : w ++ '"' :: cs = (w ++ ['"']) ++ cs := by simp
  rw [hsplit] at hwidth ⊢
  apply Cuts.cons _ _ h
  have hlong : ((w ++ ['"']) ++ cs).take 2 ≠ ['"', '"'] := by
    obtain ⟨d, ws, rfl⟩ := List.exists_cons_of_ne_nil hw
    have hd : d ≠ '"' := ne_of_isNameChar (hname d (by simp)) (by decide)
    simp [hd]
  have hquote : shape '"' ((w ++ ['"']) ++ cs) =
      if ((w ++ ['"']) ++ cs).take 2 = ['"', '"'] then
        (.text .longBasic, 2 + longWidth .longBasic (((w ++ ['"']) ++ cs).drop 2))
      else (.text .basic, shortWidth .basic ((w ++ ['"']) ++ cs)) := rfl
  rw [hquote, if_neg hlong, hwidth]
  simp

/-! ## Values -/

/-- A whole number is written with characters of a name. -/
theorem isNameChar_of_mem_toString {n : Int} {c : Char} (h : c ∈ (toString n).toList) :
    isNameChar c = true := by
  rcases mem_toString h with rfl | hdigit
  · rfl
  · exact isNameChar_of_isDigit hdigit

theorem toList_toString_ne_nil (n : Int) : (toString n).toList ≠ [] := by
  obtain ⟨k, rfl, hk⟩ | ⟨k, _, rfl, hk⟩ := toString_cases n
  · rw [hk]
    exact Nat.toDigits_ne_nil
  · rw [hk]
    exact List.cons_ne_nil _ _

/-- A whole number as a word. -/
def numeral (n : Int) : Fragment :=
  (.word, (toString n).toList)

theorem Cuts.numeral (n : Int) {cs : List Char} (hend : ∀ c ∈ cs.head?, endsWord c = true)
    {fs : List Fragment} (h : Cuts cs fs) :
    Cuts ((toString n).toList ++ cs) (numeral n :: fs) :=
  Cuts.word (toList_toString_ne_nil n) (fun _ hc => isNameChar_of_mem_toString hc) hend h

theorem isBlank_head_toString (n : Int) (cs : List Char) :
    ∀ c ∈ ((toString n).toList ++ cs).head?, isBlank c = false := by
  obtain ⟨d, ds, hds⟩ := List.exists_cons_of_ne_nil (toList_toString_ne_nil n)
  have hd : isNameChar d = true := isNameChar_of_mem_toString (n := n) (by rw [hds]; simp)
  rw [hds]
  simp [isBlank_of_isNameChar hd]

/-- A number of a list on a line of its own. -/
def row (n : Int) : List Fragment :=
  [(.blank, List.replicate 4 ' '), numeral n, (.comma, [',']), (.lineEnd, ['\n'])]

theorem Cuts.rows (ns : List Int) {cs : List Char} {fs : List Fragment} (h : Cuts cs fs) :
    Cuts ((String.join (ns.map fun n => "    " ++ toString n ++ ",\n")).toList ++ cs)
      (ns.flatMap row ++ fs) := by
  induction ns with
  | nil => exact h
  | cons n ns ih =>
    have hrow := (ih.lineEnd.comma).numeral n (by simp [endsWord])
    simpa [row] using hrow.blanks 3 (isBlank_head_toString n _)

/-- The pieces of a list of numbers. -/
def numberFragments : List Int → List Fragment
  | [] => [(.openList, ['[']), (.closeList, [']'])]
  | [n] => [(.openList, ['[']), numeral n, (.closeList, [']'])]
  | ns => (.openList, ['[']) :: (.lineEnd, ['\n']) :: ns.flatMap row ++ [(.closeList, [']'])]

theorem Cuts.numbers (ns : List Int) {cs : List Char} {fs : List Fragment} (h : Cuts cs fs) :
    Cuts ((Toml.numbers ns).toList ++ cs) (numberFragments ns ++ fs) := by
  match ns with
  | [] => exact h.closeList.openList
  | [n] =>
    have hone := (h.closeList.numeral n (by simp [endsWord])).openList
    simpa [Toml.numbers, numberFragments] using hone
  | n :: m :: ns =>
    have hmany := (h.closeList.rows (n :: m :: ns)).lineEnd.openList
    simpa [Toml.numbers, numberFragments] using hmany

/-- The pieces of a value. -/
def valueFragments : (k : Kind) → k.Value → List Fragment
  | .whole _, n => [numeral n]
  | .sensors, ids => numberFragments (ids.map SensorId.toInt)
  | .backend, b => [(.text .basic, '"' :: (b.name.toList ++ ['"']))]

theorem Cuts.value (k : Kind) (v : k.Value) {cs : List Char}
    (hend : ∀ c ∈ cs.head?, endsWord c = true) {fs : List Fragment} (h : Cuts cs fs) :
    Cuts ((k.toml v).toList ++ cs) (valueFragments k v ++ fs) :=
  match k, v with
  | .whole _, n => h.numeral n hend
  | .sensors, ids => h.numbers (ids.map SensorId.toInt)
  | .backend, b => by
    have htext := h.text b.plain_name.ne_nil b.plain_name.isNameChar
    simpa [Kind.toml, valueFragments] using htext

/-- No value begins with a blank. -/
theorem isBlank_head_toml (k : Kind) (v : k.Value) (cs : List Char) :
    ∀ c ∈ ((k.toml v).toList ++ cs).head?, isBlank c = false :=
  match k, v with
  | .whole _, n => isBlank_head_toString n cs
  | .sensors, ids => by
    have hnumbers : ∀ ns, ∃ ds, (Toml.numbers ns).toList = '[' :: ds := by
      intro ns
      match ns with
      | [] => exact ⟨_, rfl⟩
      | [n] => exact ⟨(toString n).toList ++ [']'], by simp [Toml.numbers]⟩
      | n :: m :: ns => exact ⟨_, by simp [Toml.numbers]; rfl⟩
    obtain ⟨ds, hds⟩ := hnumbers (ids.map SensorId.toInt)
    simp [Kind.toml, hds, isBlank]
  | .backend, b => by simp [Kind.toml, isBlank]

/-! ## Settings and sections -/

/-- The pieces of a setting on its line. -/
def settingFragments (e : Setting) : List Fragment :=
  (.word, e.name.toList) :: (.blank, [' ']) :: (.equals, ['=']) :: (.blank, [' ']) ::
    valueFragments e.kind e.value ++ [(.lineEnd, ['\n'])]

theorem Cuts.setting {e : Setting} (hplain : Plain e.name) {cs : List Char} {fs : List Fragment}
    (h : Cuts cs fs) :
    Cuts ((e.name ++ " = " ++ e.kind.toml e.value ++ "\n").toList ++ cs)
      (settingFragments e ++ fs) := by
  have hvalue := h.lineEnd.value e.kind e.value (by simp [endsWord])
  have hequals := (hvalue.blanks 0 (isBlank_head_toml e.kind e.value _)).equals
  have hname := (hequals.blanks 0 (by simp [isBlank])).word hplain.ne_nil hplain.isNameChar
    (by simp [endsWord])
  simpa [settingFragments] using hname

theorem Cuts.settings {es : List Setting} (hplain : ∀ e ∈ es, Plain e.name) {cs : List Char}
    {fs : List Fragment} (h : Cuts cs fs) :
    Cuts ((String.join (es.map fun e => e.name ++ " = " ++ e.kind.toml e.value ++ "\n")).toList
      ++ cs) (es.flatMap settingFragments ++ fs) := by
  induction es with
  | nil => exact h
  | cons e es ih =>
    obtain ⟨he, hes⟩ := List.forall_mem_cons.mp hplain
    simpa using (ih hes).setting he

/-- The pieces of a section: its header and its settings. -/
def sectionFragments (s : String × List Setting) : List Fragment :=
  (.openList, ['[']) :: (.word, s.1.toList) :: (.closeList, [']']) :: (.lineEnd, ['\n']) ::
    s.2.flatMap settingFragments

theorem Cuts.block {s : String × List Setting} (hname : Plain s.1)
    (hplain : ∀ e ∈ s.2, Plain e.name) {cs : List Char} {fs : List Fragment} (h : Cuts cs fs) :
    Cuts ((Toml.block s).toList ++ cs) (sectionFragments s ++ fs) := by
  have hheader := ((h.settings hplain).lineEnd.closeList.word hname.ne_nil hname.isNameChar
    (by simp [endsWord])).openList
  simpa [Toml.block, sectionFragments] using hheader

/-- The pieces of a document, with an empty line before each section but the
first. -/
def documentFragments : List (String × List Setting) → List Fragment
  | [] => []
  | [s] => sectionFragments s
  | s :: ss => sectionFragments s ++ (.lineEnd, ['\n']) :: documentFragments ss

theorem Cuts.sections {ss : List (String × List Setting)}
    (hplain : ∀ s ∈ ss, Plain s.1 ∧ ∀ e ∈ s.2, Plain e.name) :
    Cuts ("\n".intercalate (ss.map Toml.block)).toList (documentFragments ss) := by
  induction ss with
  | nil => exact Cuts.nil
  | cons s ss ih =>
    obtain ⟨hs, hss⟩ := List.forall_mem_cons.mp hplain
    cases ss with
    | nil => simpa [documentFragments] using Cuts.nil.block hs.1 hs.2
    | cons t ts =>
      have hblock := (ih hss).lineEnd.block hs.1 hs.2
      simpa [documentFragments, String.intercalate_cons_cons] using hblock

/-- A written configuration falls into the pieces of its sections. -/
theorem cuts_toToml (c : Config) : Cuts c.toToml.toList (documentFragments c.outline) := by
  apply Cuts.sections
  intro s hs
  obtain ⟨p, hp, rfl⟩ := List.mem_map.mp hs
  refine ⟨Config.plain_of_mem_parts p hp, ?_⟩
  intro e he
  obtain ⟨f, hf, rfl⟩ := List.mem_map.mp he
  exact (Config.lawful_of_mem_parts p hp).plain f hf

end SensorBroker.Toml
