/-
# The statements of a written TOML document

From the pieces of a written document the statements are read as they were
written: a header for each section, and below it an assignment for each setting,
whose value stands there as its kind is written. Nothing is left behind the last
of them.

Key definitions: `Token.Is`, `Written.Shows`, `Written.Writes`, `Assigns`,
`Block.Writes`, `Yields`.
Key theorems: `value_fragments`, `assignment_setting`, `Yields.setting`,
`Yields.header`, `statements_toToml`.
-/
import SensorBroker.Config.Toml.Table
import SensorBroker.Proofs.Config.TomlTokens

namespace SensorBroker.Toml

open SensorBroker.Text

/-! ## Values as they are written -/

/-- A token that is this word. -/
def Token.Is (t : Token) (w : List Char) : Prop :=
  t.mark = .word ∧ t.chars = w

/-- A whole number as it is written. -/
def Written.Shows (w : Written) (n : Int) : Prop :=
  ∃ t, w = .scalar t ∧ t.chars = (toString n).toList

/-- A value of a kind as it is written. -/
def Written.Writes (w : Written) : (k : Kind) → k.Value → Prop
  | .whole _, n => w.Shows n
  | .sensors, ids => ∃ span ws, w = .list span ws ∧
      List.Forall₂ Written.Shows ws (ids.map SensorId.toInt)
  | .backend, b => ∃ t, w = .text .basic t ∧ t.chars = '"' :: (b.name.toList ++ ['"'])

/-- A mark behind which no word goes on. -/
def Mark.Closes (m : Mark) : Prop :=
  m ≠ .dot ∧ m ≠ .word ∧ m ≠ .blank

/-- A number is taken up to the mark behind it. -/
theorem scalarRest_numeral (start : Nat) (n : Int) {m : Mark} (hm : m.Closes) (cs : List Char)
    (fs : List Fragment) :
    scalarRest (layOut start (numeral n :: (m, cs) :: fs)) =
      ((toString n).toList, layOut (start + (toString n).toList.length) ((m, cs) :: fs)) := by
  obtain ⟨hdot, hword, hblank⟩ := hm
  have hstop : ∀ (t : Token) ts, t.mark = m → scalarRest (t :: ts) = ([], t :: ts) := by
    intro t ts ht
    cases ts <;> simp [scalarRest, ht, hdot, hword, hblank]
  have hnext := hstop ⟨m, start + (toString n).toList.length, cs⟩
    (layOut (start + (toString n).toList.length + cs.length) fs) rfl
  simp only [numeral, layOut]
  rw [scalarRest, hnext]
  simp

/-- A number is read as it is written. -/
theorem value_numeral (last depth start : Nat) (n : Int) {m : Mark} (hm : m.Closes)
    (cs : List Char) (fs : List Fragment) :
    ∃ w, value last depth (layOut start (numeral n :: (m, cs) :: fs)) =
      .ok (w, layOut (start + (toString n).toList.length) ((m, cs) :: fs)) ∧ w.Shows n := by
  refine ⟨.scalar ⟨.word, start, (toString n).toList⟩, ?_, ⟨_, rfl, rfl⟩⟩
  have hrest := scalarRest_numeral start n hm cs fs
  simp only [numeral, layOut] at hrest ⊢
  rw [value.eq_def]
  simp [hrest, -Int.toString_eq_repr]

/-- The end of a list is found behind its last item. -/
theorem items_closeList (read : Reader Written) (last fuel : Nat) (free : Bool) (start : Nat)
    (fs : List Fragment) :
    items read last (fuel + 1) free (layOut start ((.closeList, [']']) :: fs)) =
      .ok (([], start + 1), layOut (start + 1) fs) := by
  simp [layOut, items, Token.stop]

/-- A list is read line by line. -/
theorem items_rows (last depth : Nat) (ns : List Int) (fs : List Fragment) (start : Nat)
    {fuel : Nat} (hfuel : 4 * ns.length < fuel) :
    ∃ ws stop place,
      items (value last depth) last fuel true
        (layOut start (ns.flatMap row ++ (.closeList, [']']) :: fs)) =
        .ok ((ws, stop), layOut place fs) ∧ List.Forall₂ Written.Shows ws ns := by
  induction ns generalizing start fuel with
  | nil =>
    obtain ⟨fuel, rfl⟩ := Nat.exists_eq_succ_of_ne_zero (by omega : fuel ≠ 0)
    exact ⟨[], _, _, items_closeList _ last fuel true start fs, .nil⟩
  | cons n ns ih =>
    -- a line has four pieces: blanks, the number, its comma and its end
    rw [List.length_cons] at hfuel
    obtain ⟨fuel, rfl⟩ : ∃ k, fuel = k + 4 := ⟨fuel - 4, by omega⟩
    have hfuel' : 4 * ns.length < fuel := by omega
    obtain ⟨w, hw, hshows⟩ := value_numeral last depth (start + 4) n
      (m := .comma) ⟨by decide, by decide, by decide⟩ [',']
      ((.lineEnd, ['\n']) :: (ns.flatMap row ++ (.closeList, [']']) :: fs))
    obtain ⟨ws, stop, place, hws, hall⟩ :=
      ih (start + 4 + (toString n).toList.length + 1 + 1) hfuel'
    refine ⟨w :: ws, stop, place, ?_, .cons hshows hall⟩
    simp only [numeral, layOut, List.length_singleton] at hw
    simp [row, numeral, layOut, items, hw, hws, Token.check, bind, Except.bind,
      -Int.toString_eq_repr]

theorem length_flatMap_row (ns : List Int) : (ns.flatMap row).length = 4 * ns.length := by
  induction ns with
  | nil => rfl
  | cons n ns ih =>
    simp only [List.flatMap_cons, List.length_append, ih, row, List.length_cons, List.length_nil]
    omega

/-- The items of a list are read in each of the three ways in which a list is
written. -/
theorem items_numbers (last depth : Nat) (ns : List Int) (fs : List Fragment) (start : Nat) :
    ∃ fs' ws stop place, numberFragments ns ++ fs = (.openList, ['[']) :: fs' ∧
      items (value last depth) last (fs'.length + 2) true (layOut start fs') =
        .ok ((ws, stop), layOut place fs) ∧ List.Forall₂ Written.Shows ws ns := by
  match ns with
  | [] => exact ⟨_, [], _, _, rfl, items_closeList _ last _ true start fs, .nil⟩
  | [n] =>
    obtain ⟨w, hw, hshows⟩ := value_numeral last depth start n
      (m := .closeList) ⟨by decide, by decide, by decide⟩ [']'] fs
    refine ⟨_, [w], start + (toString n).toList.length + 1,
      start + (toString n).toList.length + 1, rfl, ?_, .cons hshows .nil⟩
    simp only [numeral, layOut, List.length_singleton] at hw
    simp [numeral, layOut, items, hw, Token.stop, bind, Except.bind, -Int.toString_eq_repr]
  | n :: m :: ns =>
    have hlength := length_flatMap_row (n :: m :: ns)
    have hfuel : 4 * (n :: m :: ns).length <
        ((n :: m :: ns).flatMap row ++ (.closeList, [']']) :: fs).length + 2 := by
      simp only [List.length_append, hlength]
      omega
    obtain ⟨ws, stop, place, hws, hall⟩ :=
      items_rows last depth (n :: m :: ns) fs (start + 1) hfuel
    refine ⟨(.lineEnd, ['\n']) :: ((n :: m :: ns).flatMap row ++ (.closeList, [']']) :: fs), ws,
      stop, place, by simp [numberFragments], ?_, hall⟩
    simp only [layOut, items, List.length_cons]
    exact hws

/-- A value is read as it is written, up to the end of its line. -/
theorem value_fragments (last depth : Nat) (k : Kind) (v : k.Value) (fs : List Fragment)
    (start : Nat) :
    ∃ w place, value last (depth + 1)
      (layOut start (valueFragments k v ++ (.lineEnd, ['\n']) :: fs)) =
        .ok (w, layOut place ((.lineEnd, ['\n']) :: fs)) ∧ w.Writes k v := by
  match k, v with
  | .whole _, n =>
    obtain ⟨w, hw, hshows⟩ := value_numeral last (depth + 1) start n
      (m := .lineEnd) ⟨by decide, by decide, by decide⟩ ['\n'] fs
    exact ⟨w, _, hw, hshows⟩
  | .sensors, ids =>
    obtain ⟨fs', ws, stop, place, hfs, hws, hall⟩ :=
      items_numbers last depth (ids.map SensorId.toInt) ((.lineEnd, ['\n']) :: fs) (start + 1)
    refine ⟨.list ⟨start, stop⟩ ws, place, ?_, ⟨_, ws, rfl, hall⟩⟩
    rw [valueFragments, hfs]
    simp [layOut, value, length_layOut, hws, bind, Except.bind]
  | .backend, b =>
    refine ⟨.text .basic ⟨.text .basic, start, '"' :: (b.name.toList ++ ['"'])⟩,
      start + ('"' :: (b.name.toList ++ ['"'])).length, ?_, ⟨_, rfl, rfl⟩⟩
    simp [valueFragments, layOut, value]

/-! ## Statements -/

/-- An assignment that gives a setting its value. -/
def Assigns (a : Path × Written) (e : Setting) : Prop :=
  ∃ t, a.1 = [t] ∧ t.Is e.name.toList ∧ a.2.Writes e.kind e.value

/-- A header with the assignments of a section below it. -/
structure Block.Writes (b : Block) (s : String × List Setting) : Prop where
  isHeader : b.isElement = false
  path : ∃ t, b.path = [t] ∧ t.Is s.1.toList
  body : List.Forall₂ Assigns b.body s.2

theorem endLine_lineEnd (start : Nat) (ts : List Token) :
    endLine (⟨.lineEnd, start, ['\n']⟩ :: ts) = .ok ts := by
  simp [endLine, Token.check, bind, Except.bind]

/-- The line of a setting is an assignment. -/
theorem assignment_setting (last : Nat) (e : Setting) (fs : List Fragment) (start : Nat) :
    ∃ t w place, assignment last (layOut start (settingFragments e ++ fs)) =
      .ok (.assign [t] w, layOut place fs) ∧ Assigns ([t], w) e := by
  obtain ⟨w, place, hvalue, hwrites⟩ := value_fragments last 79 e.kind e.value fs
    (start + e.name.toList.length + 1 + 1 + 1)
  refine ⟨⟨.word, start, e.name.toList⟩, w, place + 1, ?_, ⟨_, rfl, ⟨rfl, rfl⟩, hwrites⟩⟩
  simp [settingFragments, layOut, assignment, path, pathRest, skipBlank, maxDepth, hvalue,
    endLine_lineEnd, bind, Except.bind, pure, Except.pure]

/-- The line of a header is one. -/
theorem header_layOut (opened : Token) (name : List Char) (fs : List Fragment) (start : Nat) :
    ∃ span t place, header opened false
      (layOut start ((.word, name) :: (.closeList, [']']) :: (.lineEnd, ['\n']) :: fs)) =
      .ok (.header span [t], layOut place fs) ∧ t.Is name := by
  refine ⟨⟨opened.start, start + name.length + 1⟩, ⟨.word, start, name⟩,
    start + name.length + 1 + 1, ?_, ⟨rfl, rfl⟩⟩
  simp [layOut, header, path, pathRest, skipBlank, endLine_lineEnd, Token.stop, bind, Except.bind,
    pure, Except.pure]

/-- A line that begins with a word is an assignment. -/
theorem statementsFuel_word {last fuel : Nat} {t : Token} {ts rest : List Token} {s : Statement}
    (ht : t.mark = .word) (h : assignment last (t :: ts) = .ok (s, rest)) :
    statementsFuel last (fuel + 1) (t :: ts) =
      (statementsFuel last fuel rest).map fun sts => s :: sts := by
  simp only [statementsFuel, ht, h, bind, Except.bind, pure, Except.pure]
  cases statementsFuel last fuel rest <;> rfl

/-- A line that begins with one bracket is a header. -/
theorem statementsFuel_openList {last fuel : Nat} {t u : Token} {us rest : List Token}
    {s : Statement} (ht : t.mark = .openList) (hu : u.mark ≠ .openList)
    (h : header t false (u :: us) = .ok (s, rest)) :
    statementsFuel last (fuel + 1) (t :: u :: us) =
      (statementsFuel last fuel rest).map fun sts => s :: sts := by
  simp only [statementsFuel, ht, hu, if_false, h, bind, Except.bind, pure, Except.pure]
  cases statementsFuel last fuel rest <;> rfl

/-! ## Documents -/

/-- Pieces from which assignments of these settings are read, and behind them
sections. -/
def Yields (last : Nat) (fs : List Fragment) (es : List Setting)
    (ss : List (String × List Setting)) : Prop :=
  ∀ start fuel, fs.length < fuel → ∃ sts,
    statementsFuel last fuel (layOut start fs) = .ok sts ∧
      List.Forall₂ Assigns (blocks sts).1 es ∧ List.Forall₂ Block.Writes (blocks sts).2 ss

section Yields

variable {last : Nat} {fs : List Fragment} {es : List Setting}
  {ss : List (String × List Setting)}

theorem Yields.nil : Yields last [] [] [] := by
  intro start fuel hfuel
  obtain ⟨fuel, rfl⟩ := Nat.exists_eq_succ_of_ne_zero (by omega : fuel ≠ 0)
  exact ⟨[], by simp [layOut, statementsFuel], .nil, .nil⟩

/-- An empty line says nothing. -/
theorem Yields.lineEnd (h : Yields last fs es ss) :
    Yields last ((.lineEnd, ['\n']) :: fs) es ss := by
  intro start fuel hfuel
  obtain ⟨fuel, rfl⟩ := Nat.exists_eq_succ_of_ne_zero (by omega : fuel ≠ 0)
  obtain ⟨sts, hsts, hbody, hblocks⟩ := h (start + 1) fuel (by simpa using hfuel)
  refine ⟨sts, ?_, hbody, hblocks⟩
  simp [layOut, statementsFuel, Token.check, hsts, bind, Except.bind]

theorem Yields.setting (e : Setting) (h : Yields last fs es ss) :
    Yields last (settingFragments e ++ fs) (e :: es) ss := by
  intro start fuel hfuel
  obtain ⟨fuel, rfl⟩ := Nat.exists_eq_succ_of_ne_zero (by omega : fuel ≠ 0)
  obtain ⟨t, w, place, hassign, hassigns⟩ := assignment_setting last e fs start
  have hfs : fs.length < fuel := by
    simp only [settingFragments, List.length_append, List.length_cons] at hfuel
    omega
  obtain ⟨sts, hsts, hbody, hblocks⟩ := h place fuel hfs
  refine ⟨.assign [t] w :: sts, ?_, .cons hassigns hbody, hblocks⟩
  have hstep : statementsFuel last (fuel + 1) (layOut start (settingFragments e ++ fs)) = _ :=
    statementsFuel_word rfl hassign
  rw [hsts] at hstep
  exact hstep

theorem Yields.header {name : String} (h : Yields last fs es ss) :
    Yields last ((.openList, ['[']) :: (.word, name.toList) :: (.closeList, [']']) ::
      (.lineEnd, ['\n']) :: fs) [] ((name, es) :: ss) := by
  intro start fuel hfuel
  obtain ⟨fuel, rfl⟩ := Nat.exists_eq_succ_of_ne_zero (by omega : fuel ≠ 0)
  obtain ⟨span, t, place, hheader, ht⟩ :=
    header_layOut ⟨.openList, start, ['[']⟩ name.toList fs (start + 1)
  have hfs : fs.length < fuel := by
    simp only [List.length_cons] at hfuel
    omega
  obtain ⟨sts, hsts, hbody, hblocks⟩ := h place fuel hfs
  refine ⟨.header span [t] :: sts, ?_, .nil, .cons ⟨rfl, ⟨t, rfl, ht⟩, hbody⟩ hblocks⟩
  have hstep : statementsFuel last (fuel + 1) (layOut start ((.openList, ['[']) ::
      (.word, name.toList) :: (.closeList, [']']) :: (.lineEnd, ['\n']) :: fs)) = _ :=
    statementsFuel_openList rfl (by simp) hheader
  rw [hsts] at hstep
  exact hstep

theorem Yields.settings (h : Yields last fs [] ss) (es : List Setting) :
    Yields last (es.flatMap settingFragments ++ fs) es ss := by
  induction es with
  | nil => exact h
  | cons e es ih =>
    rw [List.flatMap_cons, List.append_assoc]
    exact ih.setting e

theorem Yields.section (s : String × List Setting) (h : Yields last fs [] ss) :
    Yields last (sectionFragments s ++ fs) [] (s :: ss) :=
  (h.settings s.2).header

end Yields

theorem yields_documentFragments (last : Nat) (ss : List (String × List Setting)) :
    Yields last (documentFragments ss) [] ss := by
  induction ss with
  | nil => exact Yields.nil
  | cons s ss ih =>
    cases ss with
    | nil => simpa [documentFragments] using Yields.nil.section s
    | cons t ts => exact ih.lineEnd.section s

/-- What stands in front of a written configuration is no byte order mark. -/
theorem ofText_toToml (c : Config) : Token.ofText c.toToml.toList = scan 0 c.toToml.toList := by
  have hopen : ∃ cs, c.toToml.toList = '[' :: cs := by
    simp [Config.toToml, Config.outline, Config.parts, String.intercalate_cons_cons, block]
  obtain ⟨cs, hcs⟩ := hopen
  rw [hcs]
  rfl

/-- **A written document says what was written.** Nothing stands in front of the
first header, and below the headers the settings of each section. -/
theorem statements_toToml (c : Config) :
    ∃ sts, statements (Token.ofText c.toToml.toList) = .ok sts ∧ (blocks sts).1 = [] ∧
      List.Forall₂ Block.Writes (blocks sts).2 c.outline := by
  rw [ofText_toToml, cuts_toToml c 0, statements]
  obtain ⟨sts, hsts, hbody, hblocks⟩ := yields_documentFragments _ c.outline 0
    ((layOut 0 (documentFragments c.outline)).length + 1) (by rw [length_layOut]; omega)
  exact ⟨sts, hsts, List.forall₂_nil_right_iff.mp hbody, hblocks⟩

end SensorBroker.Toml
