/-
# What is written in TOML is read back

The words of a written document stand for its names and numbers, and the texts in
quotes for what is between them. Each assignment adds an entry to the table of
its section, and each section a table to the document, in the order of the
alphabet, which is not the order in which they were written: so the settings are
put into the configuration in an order of their own.

Key definitions: `Holds`, `HoldsSection`, `Takes`.
Key theorems: `scalar_of_toString`, `ofKind_of_writes`, `alter_new`, `adds_each`,
`fill_of_assigns`, `addBlocks_of_writes`, `members_of_perm`, `config?_toToml`.
-/
import Mathlib.Data.List.TakeWhile
import SensorBroker.Config.Toml.Reading
import SensorBroker.Proofs.Config.TomlStatements

namespace SensorBroker.Toml

open SensorBroker.Text

/-! ## Numbers -/

theorem groupsOf_of_not_mem {cs : List Char} (h : '_' ∉ cs) : groupsOf cs = [cs] := by
  induction cs with
  | nil => rfl
  | cons c cs ih =>
    rw [List.mem_cons, not_or] at h
    simp [groupsOf, Ne.symm h.1, ih h.2]

/-- Where there is no underscore, none stands next to no digit. -/
theorem checkGroups_of_not_mem (digit : Char → Bool) {t : Token} (h : '_' ∉ t.chars) :
    checkGroups digit (Piece.ofToken t) = .ok () := by
  have hhead : t.chars.head? ≠ some '_' := fun heq => h (List.mem_of_head? heq)
  have hlast : t.chars.getLast? ≠ some '_' := fun heq => h (List.mem_of_getLast? heq)
  simp [checkGroups, strayUnderscore?, strayBetween?, Piece.ofToken, Piece.start, Token.stop,
    hhead, hlast, groupsOf_of_not_mem h]

/-- Digits are read as the number that they stand for. -/
theorem wholeNumber_toDigits (negative : Bool) {p : Piece} {n : Nat}
    (hp : p.chars = Nat.toDigits 10 n) (htoken : '_' ∉ p.token.chars) :
    wholeNumber negative p = .ok (.whole (some (signedNumber negative n))) := by
  have hall : (Nat.toDigits 10 n).all isDigit = true := by
    simp only [List.all_eq_true]
    exact fun _ hd => isDigit_of_mem_toDigits hd
  have hungrouped : p.ungrouped = Nat.toDigits 10 n := by
    rw [Piece.ungrouped, hp, List.filter_eq_self]
    intro c hc
    have hne : c ≠ '_' := by
      rintro rfl
      exact Nat.underscore_not_in_toDigits hc
    simp [hne]
  have hzero : 1 < p.chars.length → noLeadingZero p = .ok () := by
    intro hlength
    have hhead : p.chars.head? ≠ some '0' := by
      intro heq
      rw [hp] at heq hlength
      simp [toDigits_of_head_zero heq] at hlength
    simp [noLeadingZero, hhead]
  have hgroups : checkGroups isHexDigit p.all = .ok () := checkGroups_of_not_mem _ htoken
  by_cases hlength : 1 < p.chars.length
  · simp [wholeNumber, hlength, hzero hlength, hgroups, hungrouped, hall, ofDigits_toDigits, bind,
      Except.bind]
  · simp [wholeNumber, hlength, hgroups, hungrouped, hall, ofDigits_toDigits, bind, Except.bind]

/-- Digits alone are a whole number. -/
theorem numeric_toDigits (negative : Bool) {p : Piece} {n : Nat}
    (hp : p.chars = Nat.toDigits 10 n) (htoken : '_' ∉ p.token.chars) :
    numeric negative p = .ok (.whole (some (signedNumber negative n))) := by
  have hdrop : p.chars.dropWhile isDigit = [] := by
    rw [hp, List.dropWhile_eq_nil_iff]
    exact fun _ hd => isDigit_of_mem_toDigits hd
  rw [numeric, hdrop]
  exact wholeNumber_toDigits negative hp htoken

/-- A word of digits stands for its number. -/
theorem scalar_toDigits {t : Token} {n : Nat} (ht : t.chars = Nat.toDigits 10 n) :
    t.scalar = .ok (.whole (some n)) := by
  have htoken : '_' ∉ t.chars := by
    rw [ht]
    exact Nat.underscore_not_in_toDigits
  have hwhole := wholeNumber_toDigits false (p := .ofToken t) ht htoken
  have hnumeric := numeric_toDigits false (p := .ofToken t) ht htoken
  obtain ⟨d, ds, hds, hd⟩ := toDigits_eq_cons n
  have hplus : d ≠ '+' := ne_of_isDigit hd (by decide)
  have hminus : d ≠ '-' := ne_of_isDigit hd (by decide)
  by_cases hzero : d = '0'
  · subst hzero
    have hone : Nat.toDigits 10 n = ['0'] := toDigits_of_head_zero (by simp [hds])
    have hafter : afterZero false false (.ofToken t) = wholeNumber false (.ofToken t) := by
      simp [afterZero, Piece.ofToken, ht, hone]
    simp [Token.scalar, ht, hone, hafter, hwhole, signedNumber]
  · rw [hds] at ht
    simp [Token.scalar, ht, hplus, hminus, hzero, hd, hnumeric, signedNumber]

/-- A word of digits behind a minus sign stands for the negative number. -/
theorem scalar_neg_toDigits {t : Token} {n : Nat} (hn : 0 < n)
    (ht : t.chars = '-' :: Nat.toDigits 10 n) :
    t.scalar = .ok (.whole (some (-n))) := by
  have htoken : '_' ∉ t.chars := by
    simp [ht]
  have hblank : ' ' ∉ t.chars := by
    rw [ht]
    intro h
    obtain heq | h := List.mem_cons.mp h
    · simp at heq
    · exact ne_of_isDigit (isDigit_of_mem_toDigits h) (by decide) rfl
  have hdigits : ((Piece.ofToken t).drop 1).chars = Nat.toDigits 10 n := by
    simp [Piece.ofToken, Piece.drop, ht]
  have hnumeric := numeric_toDigits true hdigits htoken
  obtain ⟨d, ds, hds, hd⟩ := toDigits_eq_cons n
  have hplus : d ≠ '+' := ne_of_isDigit hd (by decide)
  have hminus : d ≠ '-' := ne_of_isDigit hd (by decide)
  have hzero : d ≠ '0' := by
    have hhead := head_toDigits_ne_zero hn
    simpa [hds] using hhead
  have hchars : ((Piece.ofToken t).drop 1).chars = d :: ds := hdigits.trans hds
  have hbroken : ((Piece.ofToken t).drop 1).isBroken = false := by
    simpa [Piece.isBroken, Piece.ofToken, Piece.drop] using hblank
  have hsign : afterSign true ((Piece.ofToken t).drop 1) =
      numeric true ((Piece.ofToken t).drop 1) := by
    simp [afterSign, hchars, hbroken, hplus, hminus, hzero, hd]
  simp [Token.scalar, ht, hsign, hnumeric, signedNumber]

/-- A word that a number is written as stands for it. -/
theorem scalar_of_toString {t : Token} {n : Int} (ht : t.chars = (toString n).toList) :
    t.scalar = .ok (.whole (some n)) := by
  obtain ⟨k, rfl, hk⟩ | ⟨k, hpos, rfl, hk⟩ := toString_cases n
  · exact scalar_toDigits (ht.trans hk)
  · exact scalar_neg_toDigits hpos (ht.trans hk)

/-! ## Names and texts -/

theorem isControl_of_isNameChar {c : Char} (h : isNameChar c = true) : isControl c = false := by
  have hdelete : c ≠ '\x7f' := ne_of_isNameChar h (by decide)
  have hprintable : ¬ c < ' ' := by
    intro hlt
    have hlt : c.toNat < 32 := hlt
    have hall : ∀ n < 32, isNameChar (Char.ofNat n) = false := by decide
    have hnot := hall c.toNat hlt
    rw [Char.ofNat_toNat, h] at hnot
    contradiction
  simp [isControl, hdelete, hprintable]

/-- Characters of a name stand for themselves. -/
theorem unescape_of_isNameChar {cs : List Char} (h : ∀ c ∈ cs, isNameChar c = true) {fuel : Nat}
    (hfuel : cs.length < fuel) (place : Nat) : unescape .basic fuel place cs = .ok cs := by
  induction cs generalizing fuel place with
  | nil =>
    obtain ⟨fuel, rfl⟩ := Nat.exists_eq_succ_of_ne_zero (by omega : fuel ≠ 0)
    rfl
  | cons c cs ih =>
    obtain ⟨fuel, rfl⟩ := Nat.exists_eq_succ_of_ne_zero (by omega : fuel ≠ 0)
    obtain ⟨hc, hcs⟩ := List.forall_mem_cons.mp h
    have hslash : c ≠ '\\' := ne_of_isNameChar hc (by decide)
    have hlong : Quotes.basic.isLong = false := rfl
    have hrec := ih hcs (by simpa using hfuel : cs.length < fuel) (place + 1)
    simp [unescape, hslash, hlong, isControl_of_isNameChar hc, hrec, bind, Except.bind, pure,
      Except.pure]

/-- A text of name characters stands for what is between its quotes. -/
theorem content_of_plain {t : Token} {s : String} (hs : Plain s)
    (ht : t.chars = '"' :: (s.toList ++ ['"'])) : t.content .basic = .ok s := by
  have hlong : Quotes.basic.isLong = false := rfl
  have hmark : Quotes.basic.mark = '"' := rfl
  have hunescape := unescape_of_isNameChar hs.isNameChar (Nat.lt_succ_self _)
  simp [Token.content, ht, hlong, hmark, hunescape, Except.map]

/-- A word is the name that it is written as. -/
theorem names_of_is {t : Token} {s : String} (hs : Plain s) (ht : t.Is s.toList) :
    names [t] = .ok [⟨s, t.span⟩] := by
  obtain ⟨hmark, hchars⟩ := ht
  have hgood : t.chars.takeWhile isNameChar = t.chars := by
    rw [List.takeWhile_eq_self_iff, hchars]
    exact hs.isNameChar
  have hne : t.chars ≠ [] := by
    rw [hchars]
    exact hs.ne_nil
  have hname : t.name = .ok ⟨s, t.span⟩ := by
    simp only [Token.name, hmark, hgood, List.drop_length, List.takeWhile_nil, List.isEmpty_iff,
      hne, if_false, if_true]
    rw [hchars, String.ofList_toList]
  simp [names, hname, maxNames, bind, Except.bind, pure, Except.pure]

/-! ## Values -/

/-- What a number is written as means the number. -/
theorem value_of_shows {w : Written} {n : Int} (h : w.Shows n) :
    ∃ span, w.value = .ok ⟨span, .scalar (.whole (some n))⟩ := by
  obtain ⟨t, rfl, ht⟩ := h
  refine ⟨t.span, ?_⟩
  simp [Written.value, scalar_of_toString ht, bind, Except.bind, pure, Except.pure]

/-- A number that its type allows is taken as it is. -/
theorem whole_of_fits {t : WholeType} {n : Int} (h : t.Fits n) (span : Span) :
    whole t ⟨span, .scalar (.whole (some n))⟩ = .ok n := by
  have hbounds : (Int64.minValue.toInt ≤ n && n < UInt64.size) = true := by
    simp only [h.low, h.high, decide_true, Bool.and_self]
  have hfound : (Value.scalar (.whole (some n))).found = .ok (.whole n) := by
    rw [Value.found, if_pos hbounds]
  simp [whole, hfound, placed, h.allowed]

/-- The numbers of a list mean what they are written as. -/
theorem values_of_shows {t : WholeType} {ws : List Written} {ns : List Int}
    (h : List.Forall₂ Written.Shows ws ns) (hfits : ∀ n ∈ ns, t.Fits n) :
    ∃ vs, Written.values ws = .ok vs ∧ vs.mapM (whole t) = .ok ns := by
  induction h with
  | nil => exact ⟨[], by simp [Written.values], rfl⟩
  | @cons w n ws ns hw _ ih =>
    obtain ⟨hn, hns⟩ := List.forall_mem_cons.mp hfits
    obtain ⟨span, hvalue⟩ := value_of_shows hw
    obtain ⟨vs, hvs, hmap⟩ := ih hns
    refine ⟨⟨span, .scalar (.whole (some n))⟩ :: vs, ?_, ?_⟩
    · simp [Written.values, hvalue, hvs, bind, Except.bind, pure, Except.pure]
    · simp [List.mapM_cons, whole_of_fits hn, hmap, bind, Except.bind, pure, Except.pure]

/-- **A value means what it was written as.** -/
theorem ofKind_of_writes {k : Kind} {v : k.Value} (hfits : k.Fits v) {w : Written}
    (h : w.Writes k v) : ∃ pv, w.value = .ok pv ∧ ofKind k pv = .ok v := by
  match k, v with
  | .whole t, n =>
    obtain ⟨span, hvalue⟩ := value_of_shows h
    exact ⟨_, hvalue, whole_of_fits hfits span⟩
  | .sensors, ids =>
    obtain ⟨span, ws, rfl, hws⟩ := h
    have hall : ∀ n ∈ ids.map SensorId.toInt, WholeType.signed32.Fits n := by
      intro n hn
      obtain ⟨s, -, rfl⟩ := List.mem_map.mp hn
      exact s.fits_toInt
    obtain ⟨vs, hvs, hmap⟩ := values_of_shows hws hall
    refine ⟨⟨span, .list vs⟩, ?_, ?_⟩
    · simp [Written.value, hvs, bind, Except.bind, pure, Except.pure]
    · simp [ofKind, sensors, hmap, bind, Except.bind, pure, Except.pure, Function.comp_def]
  | .backend, b =>
    obtain ⟨t, rfl, ht⟩ := h
    have hcontent := content_of_plain b.plain_name ht
    refine ⟨⟨t.span, .text b.name⟩, ?_, ?_⟩
    · simp [Written.value, hcontent, bind, Except.bind, pure, Except.pure]
    · simp [ofKind, backend, placed, BackendKind.named_name]

/-! ## Tables -/

/-- A name that stands for nothing yet gets a value; where its entry stands among
the others, depends on the alphabet. -/
theorem alter_new {key : Name} {f : Option (Placed Value) → Except Flaw (Placed Value)}
    {v : Placed Value} (hf : f none = .ok v) {es : Entries}
    (hnew : ∀ e ∈ es, e.1.text ≠ key.text) :
    ∃ es', alter key f es = .ok es' ∧ es'.Perm ((key, v) :: es) := by
  induction es with
  | nil =>
    refine ⟨[(key, v)], ?_, .refl _⟩
    simp [alter, hf, bind, Except.bind, pure, Except.pure]
  | cons e es ih =>
    obtain ⟨he, hes⟩ := List.forall_mem_cons.mp hnew
    obtain ⟨es', hes', hperm⟩ := ih hes
    by_cases hlt : key.text < e.1.text
    · refine ⟨(key, v) :: e :: es, ?_, .refl _⟩
      simp [alter, he, hlt, hf, bind, Except.bind, pure, Except.pure]
    · refine ⟨e :: es', ?_, (hperm.cons e).trans (.swap _ _ _)⟩
      simp [alter, he, hlt, hes', bind, Except.bind, pure, Except.pure]

/-- A step that adds an entry under a name that is new, taken for one thing after
the other, adds an entry for each of them. -/
theorem adds_each {α β : Type} {run : List α → Entries → Except Flaw Entries}
    {step : α → Entries → Except Flaw Entries} (hnil : ∀ table, run [] table = .ok table)
    (hcons : ∀ a as table, run (a :: as) table = step a table >>= run as)
    {tells : α → β → Prop} {name : β → String} {holds : Name × Placed Value → β → Prop}
    (hname : ∀ x b, holds x b → x.1.text = name b) {as : List α} {bs : List β}
    (h : List.Forall₂ tells as bs) (hdistinct : (bs.map name).Nodup)
    (hstep : ∀ a, ∀ b ∈ bs, tells a b → ∀ table : Entries, (∀ x ∈ table, x.1.text ≠ name b) →
      ∃ table' entry, step a table = .ok table' ∧ table'.Perm (entry :: table) ∧ holds entry b)
    {table : Entries} (hnew : ∀ x ∈ table, x.1.text ∉ bs.map name) :
    ∃ table' entries, run as table = .ok table' ∧ table'.Perm (entries ++ table) ∧
      List.Forall₂ holds entries bs := by
  induction h generalizing table with
  | nil => exact ⟨table, [], hnil table, .refl _, .nil⟩
  | @cons a b as bs hab _ ih =>
    obtain ⟨hnot, hdistinct⟩ := List.nodup_cons.mp hdistinct
    obtain ⟨hfirst, hstep⟩ := List.forall_mem_cons.mp fun b hb a => hstep a b hb
    have hfree : ∀ x ∈ table, x.1.text ≠ name b := by
      intro x hx heq
      exact hnew x hx (by simp [heq])
    obtain ⟨table₁, entry, hadd, hperm₁, hentry⟩ := hfirst a hab table hfree
    have hnew₁ : ∀ x ∈ table₁, x.1.text ∉ bs.map name := by
      intro x hx
      -- the entry just added has the name of `b`, which is none of the names to come
      obtain rfl | hx := List.mem_cons.mp (hperm₁.mem_iff.mp hx)
      · rw [hname x b hentry]
        exact hnot
      · exact fun hmem => hnew x hx (List.mem_cons_of_mem _ hmem)
    obtain ⟨table', entries, hrun, hperm, hall⟩ :=
      ih hdistinct (fun a b hb => hstep b hb a) hnew₁
    refine ⟨table', entry :: entries, ?_, ?_, .cons hentry hall⟩
    · rw [hcons, hadd]
      exact hrun
    · exact hperm.trans ((hperm₁.append_left entries).trans List.perm_middle)

/-- An entry under the name of a setting, with its value. -/
def Holds (entry : Name × Placed Value) (e : Setting) : Prop :=
  entry.1.text = e.name ∧ ofKind e.kind entry.2 = .ok e.value

/-- Adds what one assignment says. -/
def addAssignment (a : Path × Written) (table : Entries) : Except Flaw Entries := do
  let keys ← names a.1
  let v ← a.2.value
  addValue false v keys table

theorem fill_cons (a : Path × Written) (body : List (Path × Written)) (table : Entries) :
    Written.fill false (a :: body) table = addAssignment a table >>= Written.fill false body := by
  obtain ⟨p, w⟩ := a
  simp only [Written.fill, addAssignment, bind_assoc]

/-- An assignment to a name that is new adds its value. -/
theorem addAssignment_of_assigns {a : Path × Written} {e : Setting} (h : Assigns a e)
    (hplain : Plain e.name) (hfits : e.kind.Fits e.value) {table : Entries}
    (hnew : ∀ x ∈ table, x.1.text ≠ e.name) :
    ∃ table' entry, addAssignment a table = .ok table' ∧ table'.Perm (entry :: table) ∧
      Holds entry e := by
  obtain ⟨p, w⟩ := a
  obtain ⟨t, rfl, ht, hwrites⟩ := h
  obtain ⟨v, hvalue, hv⟩ := ofKind_of_writes hfits hwrites
  let key : Name := ⟨e.name, t.span⟩
  obtain ⟨table', hadd, hperm⟩ :
      ∃ table', addValue false v [key] table = .ok table' ∧ table'.Perm ((key, v) :: table) :=
    alter_new rfl hnew
  refine ⟨table', (key, v), ?_, hperm, rfl, hv⟩
  simp only [addAssignment, names_of_is hplain ht, hvalue]
  exact hadd

/-- Assignments add an entry for each setting. -/
theorem fill_of_assigns {body : List (Path × Written)} {es : List Setting}
    (h : List.Forall₂ Assigns body es) (hes : Legible es) :
    ∃ table entries, Written.fill false body [] = .ok table ∧ table.Perm entries ∧
      List.Forall₂ Holds entries es := by
  obtain ⟨table, entries, hfill, hperm, hall⟩ :=
    adds_each (fun _ => by simp [Written.fill]) fill_cons (fun _ _ hx => hx.1) h hes.distinct
      (fun _ e he ha _ hnew =>
        addAssignment_of_assigns ha (hes.plain e he) (hes.fits e he) hnew)
      (List.forall_mem_nil _)
  rw [List.append_nil] at hperm
  exact ⟨table, entries, hfill, hperm, hall⟩

/-! ## Documents -/

/-- An entry under the name of a section, with a table of its settings in some
order. -/
def HoldsSection (entry : Name × Placed Value) (s : String × List Setting) : Prop :=
  entry.1.text = s.1 ∧ ∃ table entries, entry.2.it = .table .headed table ∧
    table.Perm entries ∧ List.Forall₂ Holds entries s.2

/-- A header that is new adds a table with the settings below it. -/
theorem add_of_writes {b : Block} {s : String × List Setting} (h : b.Writes s)
    (hname : Plain s.1) (hsettings : Legible s.2) {root : Entries}
    (hnew : ∀ x ∈ root, x.1.text ≠ s.1) :
    ∃ root' entry, b.add root = .ok root' ∧ root'.Perm (entry :: root) ∧
      HoldsSection entry s := by
  obtain ⟨t, hpath, ht⟩ := h.path
  have hkeys := names_of_is hname ht
  obtain ⟨table, entries, hfill, hperm, hall⟩ := fill_of_assigns h.body hsettings
  let key : Name := ⟨s.1, t.span⟩
  let v : Placed Value := ⟨b.span, .table .headed table⟩
  have htable : (do return ⟨b.span, .table .headed (← Written.fill false b.body [])⟩ :
      Except Flaw (Placed Value)) = .ok v := by
    rw [hfill]
    rfl
  obtain ⟨root', hadd, hroot⟩ :
      ∃ root', b.add root = .ok root' ∧ root'.Perm ((key, v) :: root) := by
    rw [Block.add, hpath, hkeys]
    simp only [h.isHeader]
    exact alter_new htable hnew
  exact ⟨root', (key, v), hadd, hroot, rfl, table, entries, rfl, hperm, hall⟩

/-- Blocks with names of their own add an entry each. -/
theorem addBlocks_of_writes {bs : List Block} {ss : List (String × List Setting)}
    (h : List.Forall₂ Block.Writes bs ss) (hnames : (ss.map Prod.fst).Nodup)
    (hplain : ∀ s ∈ ss, Plain s.1 ∧ Legible s.2) :
    ∃ root entries, addBlocks bs [] = .ok root ∧ root.Perm entries ∧
      List.Forall₂ HoldsSection entries ss := by
  have hcons : ∀ b bs root, addBlocks (b :: bs) root = b.add root >>= addBlocks bs :=
    fun _ _ _ => rfl
  obtain ⟨root, entries, hroot, hperm, hall⟩ :=
    adds_each (fun _ => rfl) hcons (fun _ _ hx => hx.1) h hnames
      (fun _ s hs hb _ hnew => add_of_writes hb (hplain s hs).1 (hplain s hs).2 hnew)
      (List.forall_mem_nil _)
  rw [List.append_nil] at hperm
  exact ⟨root, entries, hroot, hperm, hall⟩

/-! ## Records -/

variable {σ : Type}

/-- An entry from which a slot takes a change. -/
def Takes (entry : Name × Placed Value) (x : Slot σ × (σ → σ)) : Prop :=
  entry.1.text = x.1.name ∧ x.1.read entry.2 = .ok x.2

/-- Entries change a record in the order in which they stand. -/
theorem members_of_takes {slots : List (Slot σ)} (hslots : (slots.map Slot.name).Nodup)
    {es : Entries} {xs : List (Slot σ × (σ → σ))} (h : List.Forall₂ Takes es xs)
    (hmem : ∀ x ∈ xs, x.1 ∈ slots) (s : σ) :
    members slots es s = .ok ((xs.map Prod.snd).foldl (fun s change => change s) s) := by
  induction h generalizing s with
  | nil => rfl
  | @cons e x es xs he _ ih =>
    obtain ⟨hx, hxs⟩ := List.forall_mem_cons.mp hmem
    have hfind := find?_name hslots hx
    rw [← he.1] at hfind
    simp [members, hfind, he.2, ih hxs, bind, Except.bind]

/-- A record comes back from its entries, in whichever order they stand. -/
theorem members_of_perm {slots : List (Slot σ)} (hslots : (slots.map Slot.name).Nodup)
    {es es' : Entries} (hperm : es.Perm es') {xs : List (Slot σ × (σ → σ))}
    (h : List.Forall₂ Takes es' xs) (hmem : ∀ x ∈ xs, x.1 ∈ slots) {s : σ}
    (hs : Restores (xs.map Prod.snd) s) (t : σ) : members slots es t = .ok s := by
  -- the changes are made in the order of the entries, which is that of the alphabet
  obtain ⟨ys, hys, hperm'⟩ := List.perm_comp_forall₂ hperm h
  rw [members_of_takes hslots hys (fun y hy => hmem y (hperm'.mem_iff.mp hy)) t]
  rw [hs _ (hperm'.map Prod.snd) t]

/-- The entries of a section say what its slots take. -/
theorem takes_of_holds {fs : List (Field σ)} {s : σ} {es : Entries}
    (h : List.Forall₂ Holds es (fs.map fun f => ⟨f.name, f.kind, f.get s⟩)) :
    List.Forall₂ Takes es (fs.map fun f => (slotOf f, f.put (f.get s))) := by
  rw [List.forall₂_map_right_iff] at h ⊢
  refine h.imp ?_
  rintro entry f ⟨hname, hvalue⟩
  exact ⟨hname, by simp [slotOf, hvalue, Except.map]⟩

/-- A section is read back, whatever its defaults are. -/
theorem sectionOf_of_holds (c : Config) {p : Part} (h : p.layout.Lawful)
    {entry : Name × Placed Value}
    (hentry : HoldsSection entry (p.name, p.layout.settings (p.get c))) :
    Takes entry (sectionOf p, p.put (p.get c)) := by
  obtain ⟨hname, table, entries, htable, hperm, hall⟩ := hentry
  have hslots : ((p.layout.fields.map slotOf).map Slot.name).Nodup := by
    simpa [slotOf, Function.comp_def] using h.distinct
  have hread : members (p.layout.fields.map slotOf) table p.default = .ok (p.get c) := by
    apply members_of_perm hslots hperm (takes_of_holds hall)
    · intro x hx
      obtain ⟨f, hf, rfl⟩ := List.mem_map.mp hx
      exact List.mem_map.mpr ⟨f, hf, rfl⟩
    · simpa [Layout.changes, Function.comp_def] using h.restores (p.get c)
  refine ⟨hname, ?_⟩
  simp [sectionOf, record, htable, hread, Except.map]

/-- The entries of a document say what the sections take. -/
theorem takes_of_holdsSection {c : Config} {es : Entries}
    (h : List.Forall₂ HoldsSection es c.outline) :
    List.Forall₂ Takes es (Config.parts.map fun p => (sectionOf p, p.put (p.get c))) := by
  rw [Config.outline, List.forall₂_map_right_iff] at h
  have hlawful := (List.forall₂_and_left _ _).mpr ⟨Config.lawful_of_mem_parts, h.flip⟩
  rw [List.forall₂_map_right_iff]
  refine (hlawful.imp ?_).flip
  rintro p entry ⟨hp, hentry⟩
  exact sectionOf_of_holds c hp hentry

/-- **What is written in TOML is read back.** Every setting has the value that was
written, whatever its default is. -/
theorem config?_toToml (c : Config) : config? c.toToml = .ok c := by
  obtain ⟨sts, hsts, hbody, hblocks⟩ := statements_toToml c
  have hnames : (c.outline.map Prod.fst).Nodup := by
    simpa [Config.outline, Function.comp_def] using Config.distinct_parts
  have hplain : ∀ s ∈ c.outline, Plain s.1 ∧ Legible s.2 := by
    intro s hs
    obtain ⟨p, hp, rfl⟩ := List.mem_map.mp hs
    exact ⟨Config.plain_of_mem_parts p hp,
      (Config.lawful_of_mem_parts p hp).legible_settings (p.get c)⟩
  obtain ⟨root, entries, hroot, hperm, hall⟩ :=
    addBlocks_of_writes hblocks hnames hplain
  have hdocument : document c.toToml.toList = .ok root := by
    simp [document, hsts, hbody, Written.fill, hroot, bind, Except.bind]
  have hslots : ((Config.parts.map sectionOf).map Slot.name).Nodup := by
    simpa [sectionOf, Function.comp_def] using Config.distinct_parts
  have hconfig : config root = .ok c := by
    apply members_of_perm hslots hperm (takes_of_holdsSection hall)
    · intro x hx
      obtain ⟨p, hp, rfl⟩ := List.mem_map.mp hx
      exact List.mem_map.mpr ⟨p, hp, rfl⟩
    · simpa [Config.changes, Function.comp_def] using c.restores_changes
  simp [config?, hdocument, hconfig, bind, Except.bind, Except.mapError]

end SensorBroker.Toml
