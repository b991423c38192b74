import Mathlib.Data.List.Basic
import SwitchLogic.Circuit.Basic
import SwitchLogic.Proofs.RoundTrip

/-! # The written form of a circuit is unambiguous

    No written device starts another one, and a connection names its kind
    first and closes its list of parts with a parenthesis that no part
    starts with.  So the front of a text holds at most one network, of
    whatever shape, and the networks of a circuit are read off its lines
    one after the other.  The line of the core ends at the first line
    break, and the text before it is read back as the core.

    A gate named `!` would be taken for the sign of an inverted gate; any
    other name, of a device or of an inverted input, is told apart. -/

namespace SwitchLogic

-- ── Texts in front of a rest ───────────────────────────────────────

/-- Two values are told apart by their written forms in front of any
    rests: equal texts mean equal values and equal rests. -/
def SplitsFrom {α : Type} (write : α → List Char) (x y : α) : Prop :=
  ∀ s t, write x ++ s = write y ++ t → x = y ∧ s = t

/-- Values that are told apart in front of any rests are told apart alone. -/
theorem SplitsFrom.eq {α : Type} {write : α → List Char} {x y : α} (h : SplitsFrom write x y)
    (heq : write x = write y) : x = y :=
  (h [] [] (congrArg (· ++ []) heq)).1

/-- A text ends at the first character that it does not have. -/
theorem eq_of_append_cons_eq {c : Char} {xs ys s t : List Char} (hxs : c ∉ xs) (hys : c ∉ ys)
    (h : xs ++ c :: s = ys ++ c :: t) : xs = ys ∧ s = t := by
  induction xs generalizing ys with
  | nil =>
      cases ys with
      | nil => exact ⟨rfl, (List.cons.inj h).2⟩
      | cons y ys => exact absurd (List.cons.inj h).1 (List.ne_of_not_mem_cons hys)
  | cons x xs ih =>
      cases ys with
      | nil => exact absurd (List.cons.inj h).1.symm (List.ne_of_not_mem_cons hxs)
      | cons y ys =>
          obtain ⟨rfl, hrest⟩ := List.cons.inj h
          obtain ⟨rfl, hst⟩ := ih (List.not_mem_of_not_mem_cons hxs)
            (List.not_mem_of_not_mem_cons hys) hrest
          exact ⟨rfl, hst⟩

-- ── Lists with separators ──────────────────────────────────────────

section Separated

variable {α : Type} {write : α → List Char} {xs ys : List α} {close : Char} {s t : List Char}

/-- Behind its first item, a list has a separator before every item. -/
theorem intercalate_map_cons (x : α) (xs : List α) :
    [',', ' '].intercalate ((x :: xs).map write)
      = write x ++ xs.flatMap fun y => ',' :: ' ' :: write y := by
  induction xs generalizing x with
  | nil => simp
  | cons y ys ih =>
      rw [List.map_cons, List.map_cons, List.intercalate_cons_cons, ← List.map_cons, ih,
        List.flatMap_cons]
      simp

/-- The further items of a closed list are determined. -/
theorem eq_of_flatMap_close (hclose : close ≠ ',')
    (hsplits : ∀ x ∈ xs, ∀ y ∈ ys, SplitsFrom write x y)
    (h : (xs.flatMap fun x => ',' :: ' ' :: write x) ++ close :: s
      = (ys.flatMap fun y => ',' :: ' ' :: write y) ++ close :: t) :
    xs = ys ∧ s = t := by
  induction xs generalizing ys with
  | nil =>
      cases ys with
      | nil => exact ⟨rfl, (List.cons.inj h).2⟩
      | cons y ys => exact absurd (List.cons.inj h).1 hclose
  | cons x xs ih =>
      cases ys with
      | nil => exact absurd (List.cons.inj h).1.symm hclose
      | cons y ys =>
          rw [List.flatMap_cons, List.flatMap_cons, List.append_assoc, List.append_assoc] at h
          have hbody := (List.cons.inj (List.cons.inj h).2).2
          obtain ⟨rfl, hrest⟩ :=
            hsplits x List.mem_cons_self y List.mem_cons_self _ _ hbody
          obtain ⟨rfl, hst⟩ := ih
            (fun a ha b hb => hsplits a (List.mem_cons_of_mem x ha) b (List.mem_cons_of_mem x hb))
            hrest
          exact ⟨rfl, hst⟩

/-- **A closed list is determined** by its text, when its items are told
    apart and none of them starts like the end of the list. -/
theorem eq_of_intercalate_close (hclose : close ≠ ',')
    (hfirst : ∀ x r u, write x ++ r ≠ close :: u)
    (hsplits : ∀ x ∈ xs, ∀ y ∈ ys, SplitsFrom write x y)
    (h : [',', ' '].intercalate (xs.map write) ++ close :: s
      = [',', ' '].intercalate (ys.map write) ++ close :: t) :
    xs = ys ∧ s = t := by
  cases xs with
  | nil =>
      cases ys with
      | nil => exact ⟨rfl, (List.cons.inj h).2⟩
      | cons y ys =>
          rw [intercalate_map_cons, List.append_assoc] at h
          -- an empty list ends at once, where the other one starts an item
          exact absurd h.symm (hfirst y _ s)
  | cons x xs =>
      cases ys with
      | nil =>
          rw [intercalate_map_cons, List.append_assoc] at h
          exact absurd h (hfirst x _ t)
      | cons y ys =>
          rw [intercalate_map_cons, intercalate_map_cons, List.append_assoc,
            List.append_assoc] at h
          obtain ⟨rfl, hrest⟩ :=
            hsplits x List.mem_cons_self y List.mem_cons_self _ _ h
          obtain ⟨rfl, hst⟩ := eq_of_flatMap_close hclose
            (fun a ha b hb => hsplits a (List.mem_cons_of_mem x ha) b (List.mem_cons_of_mem x hb))
            hrest
          exact ⟨rfl, hst⟩

end Separated

-- ── Devices and networks ───────────────────────────────────────────

/-- No kind of transistor is written like the front of the other. -/
theorem Transistor.splitsFrom (k l : Transistor) : SplitsFrom text k l := by
  intro s t h
  cases k <;> cases l <;> cases h <;> exact ⟨rfl, rfl⟩

/-- **No written device starts another one**, as long as no gate is named
    like the sign of inversion. -/
theorem Device.splitsFrom {d e : Device} (hd : d.gate ≠ '!') (he : e.gate ≠ '!') :
    SplitsFrom text d e := by
  intro s t h
  obtain ⟨k, c, i⟩ := d
  obtain ⟨l, x, j⟩ := e
  rw [text, text, List.append_assoc, List.append_assoc] at h
  obtain ⟨rfl, hgate⟩ := k.splitsFrom l _ _ h
  cases i with
  | false =>
      cases j with
      | false => cases hgate; exact ⟨rfl, rfl⟩
      | true => cases hgate; exact absurd rfl hd
  | true =>
      cases j with
      | false => cases hgate; exact absurd rfl he
      | true => cases hgate; exact ⟨rfl, rfl⟩

namespace Network

theorem text_device (d : Device) : (device d).text = d.text := fold_device _ _ _ d

theorem text_series (parts : List Network) :
    (series parts).text = connectionText "series".toList (parts.map text) :=
  fold_series _ _ _ parts

theorem text_parallel (parts : List Network) :
    (parallel parts).text = connectionText "parallel".toList (parts.map text) :=
  fold_parallel _ _ _ parts

/-- The parts of a connection end at its closing parenthesis. -/
theorem connectionText_append (name : List Char) (parts : List (List Char)) (s : List Char) :
    connectionText name parts ++ s
      = name ++ '(' :: ([',', ' '].intercalate parts ++ ')' :: s) := by
  rw [connectionText, List.append_assoc, List.cons_append, List.append_assoc]
  rfl

/-- A device is not written like the front of a connection. -/
theorem text_device_ne {name : List Char}
    (hname : name = "series".toList ∨ name = "parallel".toList) (d : Device)
    (parts : List (List Char)) (s t : List Char) :
    (device d).text ++ s ≠ connectionText name parts ++ t := by
  intro h
  obtain ⟨k, c, i⟩ := d
  rw [text_device] at h
  rcases hname with rfl | rfl
  · cases k <;> cases h
  · cases k <;> cases h

/-- The two connections are told apart by their first characters. -/
theorem text_series_ne (parts parts' : List Network) (s t : List Char) :
    (series parts).text ++ s ≠ (parallel parts').text ++ t := by
  intro h
  rw [text_series, text_parallel] at h
  cases h

/-- No network is written with a closing parenthesis in front. -/
theorem text_append_ne (n : Network) (r s : List Char) : n.text ++ r ≠ ')' :: s := by
  intro h
  cases n with
  | device d =>
      obtain ⟨k, c, i⟩ := d
      rw [text_device] at h
      cases k <;> cases h
  | series parts => rw [text_series] at h; cases h
  | parallel parts => rw [text_parallel] at h; cases h

/-- The names at the gates of the devices, left to right. -/
def gates (n : Network) : List Char := n.devices.map Device.gate

theorem gates_device (d : Device) : (device d).gates = [d.gate] := by
  rw [gates, devices_device, List.map_singleton]

theorem gates_series (parts : List Network) : (series parts).gates = parts.flatMap gates := by
  rw [gates, devices_series, List.map_flatMap]
  rfl

theorem gates_parallel (parts : List Network) :
    (parallel parts).gates = parts.flatMap gates := by
  rw [gates, devices_parallel, List.map_flatMap]
  rfl

/-- Connections of one name are told apart when their parts are. -/
theorem splitsFrom_connectionText {parts parts' : List Network} (name : List Char)
    (ih : ∀ m ∈ parts, ∀ {n : Network}, '!' ∉ m.gates → '!' ∉ n.gates → SplitsFrom text m n)
    (hparts : '!' ∉ parts.flatMap gates) (hparts' : '!' ∉ parts'.flatMap gates) :
    SplitsFrom (fun ps => connectionText name (ps.map text)) parts parts' := by
  intro s t h
  simp only [connectionText_append] at h
  rw [List.mem_flatMap, not_exists] at hparts hparts'
  have hlists := (List.cons.inj (List.append_cancel_left h)).2
  refine eq_of_intercalate_close (by decide) text_append_ne (fun m hm n hn => ?_) hlists
  exact ih m hm (fun hmem => hparts m ⟨hm, hmem⟩) fun hmem => hparts' n ⟨hn, hmem⟩

/-- **No written network starts another one**, whatever their shapes. -/
theorem splitsFrom {m n : Network} (hm : '!' ∉ m.gates) (hn : '!' ∉ n.gates) :
    SplitsFrom text m n := by
  induction m generalizing n with
  | device d =>
      intro s t h
      cases n with
      | device e =>
          rw [gates_device, List.mem_singleton] at hm hn
          rw [text_device, text_device] at h
          -- without `!` among the names, the sign in front tells whether a device is inverted
          obtain ⟨rfl, hst⟩ := Device.splitsFrom (Ne.symm hm) (Ne.symm hn) s t h
          exact ⟨rfl, hst⟩
      | series parts =>
          rw [text_series] at h
          exact absurd h (text_device_ne (.inl rfl) d _ s t)
      | parallel parts =>
          rw [text_parallel] at h
          exact absurd h (text_device_ne (.inr rfl) d _ s t)
  | series parts ih =>
      intro s t h
      cases n with
      | device e =>
          rw [text_series] at h
          exact absurd h.symm (text_device_ne (.inl rfl) e _ t s)
      | series parts' =>
          rw [gates_series] at hm hn
          rw [text_series, text_series] at h
          obtain ⟨rfl, hst⟩ := splitsFrom_connectionText _ ih hm hn s t h
          exact ⟨rfl, hst⟩
      | parallel parts' => exact absurd h (text_series_ne parts parts' s t)
  | parallel parts ih =>
      intro s t h
      cases n with
      | device e =>
          rw [text_parallel] at h
          exact absurd h.symm (text_device_ne (.inr rfl) e _ t s)
      | series parts' => exact absurd h.symm (text_series_ne parts' parts t s)
      | parallel parts' =>
          rw [gates_parallel] at hm hn
          rw [text_parallel, text_parallel] at h
          obtain ⟨rfl, hst⟩ := splitsFrom_connectionText _ ih hm hn s t h
          exact ⟨rfl, hst⟩

end Network

-- ── Cores ──────────────────────────────────────────────────────────

namespace Formula

/-- **The written form determines the formula**, because it is read back
    under every limit that is wide enough. -/
theorem eq_of_text_eq {a b : Formula} (ha : ∀ c ∈ a.leaves, Signal.isWritable c = true)
    (hb : ∀ c ∈ b.leaves, Signal.isWritable c = true) (h : a.text = b.text) : a = b := by
  obtain ⟨ts, hts, hreada⟩ := exists_tokens ha
  obtain ⟨us, hus, hreadb⟩ := exists_tokens hb
  rw [h, hus] at hts
  obtain rfl : us = ts := Except.ok.inj hts
  have hokb := hreadb (max a.nest b.nest)
  rw [hreada, if_pos (Nat.le_max_left _ _), if_pos (Nat.le_max_right _ _)] at hokb
  exact Except.ok.inj hokb

/-- The written form of a formula is a single line. -/
theorem lineBreak_notMem_text {e : Formula} (h : ∀ c ∈ e.leaves, Signal.isWritable c = true) :
    '\n' ∉ e.text := by
  intro hmem
  have hplain : '\n' ∉ Spelling.plain := by decide
  exact hplain (mem_plain_of_text h '\n' hmem)

end Formula

-- ── Circuits ───────────────────────────────────────────────────────

/-- No leaf of a written expression is the sign of inversion. -/
theorem Signal.sign_notMem {xs : List Char} (h : ∀ x ∈ xs, isWritable x = true) : '!' ∉ xs :=
  fun hmem => absurd (h '!' hmem) (by decide)

/-- The inverters of two inputs are told apart by the names of the inputs. -/
theorem Inverter.input_splitsFrom (c d : Char) :
    SplitsFrom (fun name => (Inverter.input name).text) c d := by
  intro s t h
  cases h
  exact ⟨rfl, rfl⟩

/-- An inverter is not written like what may follow a list of them. -/
theorem Inverter.input_text_ne (c b : Char) (hb : b ≠ 'i') (r s : List Char) :
    (Inverter.input c).text ++ r ≠ b :: s :=
  fun h => hb (List.cons.inj h).1.symm

namespace Circuit

variable {c c' : Circuit} {s t : List Char}

/-- The entry of the input inverters. -/
def inputText (c : Circuit) : List Char :=
  match c.inputInverters with
  | [] => noneText
  | inverters => [',', ' '].intercalate (inverters.map Inverter.text)

/-- The entry of the output inverter. -/
def outputText (c : Circuit) : List Char :=
  match c.outputInverter? with
  | some inverter => inverter.text
  | none => noneText

/-- The lines of a circuit, from the front. -/
theorem text_append (c : Circuit) (s : List Char) :
    c.text ++ s = "Core: ".toList ++ (c.core.text
      ++ '\n' :: ("Pull-down: ".toList ++ (c.pulldown.text
      ++ ("\nPull-up: ".toList ++ (c.pullup.text
      ++ ("\nInput inverters: ".toList ++ (c.inputText
      ++ '\n' :: ("Output inverter: ".toList ++ (c.outputText ++ '\n' :: s))))))))) := by
  show (_ ++ _ ++ ('\n' :: "Pull-down: ".toList) ++ _ ++ _ ++ _ ++ _ ++ c.inputText
    ++ ('\n' :: "Output inverter: ".toList) ++ c.outputText ++ ['\n']) ++ s = _
  simp only [List.append_assoc, List.cons_append, List.nil_append]

/-- A word stands for the absence of input inverters. -/
theorem inputText_of_nil (h : c.invertedInputs.toList = []) : c.inputText = noneText := by
  rw [inputText, inputInverters, h]
  rfl

/-- Input inverters are written one behind the other. -/
theorem inputText_of_cons {x : Char} {xs : List Char} (h : c.invertedInputs.toList = x :: xs) :
    c.inputText = [',', ' '].intercalate
      (c.invertedInputs.toList.map fun name => (Inverter.input name).text) := by
  rw [inputText, inputInverters, h]
  show [',', ' '].intercalate (((x :: xs).map Inverter.input).map Inverter.text) = _
  rw [List.map_map]
  rfl

/-- A list of inverters is not written like the word for their absence. -/
theorem inputText_ne_noneText {x : Char} {xs : List Char}
    (h : c.invertedInputs.toList = x :: xs) : c.inputText ++ s ≠ noneText ++ t := by
  rw [inputText_of_cons h, h, intercalate_map_cons, List.append_assoc]
  exact Inverter.input_text_ne x 'n' (by decide) _ _

/-- The entry of the input inverters ends its line. -/
theorem eq_of_inputText_append (h : c.inputText ++ '\n' :: s = c'.inputText ++ '\n' :: t) :
    c.invertedInputs = c'.invertedInputs ∧ s = t := by
  suffices key : c.invertedInputs.toList = c'.invertedInputs.toList ∧ s = t from
    ⟨NameSet.eq_of_toList_eq key.1, key.2⟩
  cases hc : c.invertedInputs.toList with
  | nil =>
      rw [inputText_of_nil hc] at h
      cases hc' : c'.invertedInputs.toList with
      | nil =>
          rw [inputText_of_nil hc'] at h
          exact ⟨rfl, (List.cons.inj (List.append_cancel_left h)).2⟩
      | cons y ys => exact absurd h.symm (inputText_ne_noneText hc')
  | cons x xs =>
      cases hc' : c'.invertedInputs.toList with
      | nil =>
          rw [inputText_of_nil hc'] at h
          exact absurd h (inputText_ne_noneText hc)
      | cons y ys =>
          rw [inputText_of_cons hc, inputText_of_cons hc', hc, hc'] at h
          exact eq_of_intercalate_close (by decide)
            (fun name r u => Inverter.input_text_ne name '\n' (by decide) r u)
            (fun a _ b _ => Inverter.input_splitsFrom a b) h

/-- The entry of the output inverter ends its line. -/
theorem eq_of_outputText_append (h : c.outputText ++ '\n' :: s = c'.outputText ++ '\n' :: t) :
    c.outputInverted = c'.outputInverted ∧ s = t := by
  obtain ⟨_, _, _, inverted, _⟩ := c
  obtain ⟨_, _, _, inverted', _⟩ := c'
  cases inverted <;> cases inverted' <;> cases h <;> exact ⟨rfl, rfl⟩

/-- The names that a circuit writes: the leaves of its core, the gates of
    its networks and its inverted inputs. -/
def names (c : Circuit) : List Char :=
  c.core.leaves ++ (c.pulldown.gates ++ (c.pullup.gates ++ c.invertedInputs.toList))

/-- **No written circuit starts another one.** -/
theorem splitsFrom (hc : ∀ x ∈ c.names, Signal.isWritable x = true)
    (hc' : ∀ x ∈ c'.names, Signal.isWritable x = true) : SplitsFrom text c c' := by
  intro s t h
  rw [names] at hc hc'
  simp only [List.forall_mem_append] at hc hc'
  obtain ⟨hleaves, hdown, hup, -⟩ := hc
  obtain ⟨hleaves', hdown', hup', -⟩ := hc'
  rw [text_append, text_append] at h
  -- line by line: the core up to the first line break, then the networks
  obtain ⟨hcore, hrest⟩ := eq_of_append_cons_eq (Formula.lineBreak_notMem_text hleaves)
    (Formula.lineBreak_notMem_text hleaves') (List.append_cancel_left h)
  obtain ⟨hpulldown, hrest⟩ := Network.splitsFrom (Signal.sign_notMem hdown)
    (Signal.sign_notMem hdown') _ _ (List.append_cancel_left hrest)
  obtain ⟨hpullup, hrest⟩ := Network.splitsFrom (Signal.sign_notMem hup)
    (Signal.sign_notMem hup') _ _ (List.append_cancel_left hrest)
  obtain ⟨hinputs, hrest⟩ := eq_of_inputText_append (List.append_cancel_left hrest)
  obtain ⟨houtput, hst⟩ := eq_of_outputText_append (List.append_cancel_left hrest)
  have hcore : c.core = c'.core := Formula.eq_of_text_eq hleaves hleaves' hcore
  refine ⟨?_, hst⟩
  calc c = ⟨c.core, c.pulldown, c.pullup, c.outputInverted, c.invertedInputs⟩ := rfl
    _ = ⟨c'.core, c'.pulldown, c'.pullup, c'.outputInverted, c'.invertedInputs⟩ := by
      rw [hcore, hpulldown, hpullup, houtput, hinputs]
    _ = c' := rfl

/-- **The written circuit determines the circuit.**  Two circuits with
    any cores, networks of any shapes, any inverted inputs and with or
    without an output inverter are written alike only if they are equal,
    as long as every name in them is a letter or a constant; and so are
    two networks. -/
theorem text_inj :
    (∀ c c' : Circuit, (∀ x ∈ c.names, Signal.isWritable x = true) →
      (∀ x ∈ c'.names, Signal.isWritable x = true) → (c.text = c'.text ↔ c = c')) ∧
    ∀ m n : Network, (∀ x ∈ m.gates, Signal.isWritable x = true) →
      (∀ x ∈ n.gates, Signal.isWritable x = true) → (m.text = n.text ↔ m = n) := by
  constructor
  · intro c c' hc hc'
    exact ⟨(splitsFrom hc hc').eq, congrArg text⟩
  · intro m n hm hn
    have hsplits : SplitsFrom Network.text m n :=
      Network.splitsFrom (Signal.sign_notMem hm) (Signal.sign_notMem hn)
    exact ⟨hsplits.eq, congrArg Network.text⟩

/-- A stage of `a nand 0` around a given pull-down network, with no part
    at all in its pull-up network. -/
def around (pulldown : Network) : Circuit where
  core := .nand (.leaf 'a') (.leaf '0')
  pulldown := pulldown
  pullup := .parallel []
  outputInverted := true
  invertedInputs := .ofList ['b', 'a']

/-- The same two devices beside an empty connection, and inside of it. -/
theorem text_inj_of_empty_connection :
    let d : Device := ⟨.nmos, 'a', false⟩
    let e : Device := ⟨.pmos, 'b', true⟩
    let m : Network := .series [.device d, .parallel [], .device e]
    let n : Network := .series [.device d, .parallel [.device e]]
    (∀ x ∈ (around m).names, Signal.isWritable x = true) ∧ (around m).text ≠ (around n).text ∧
      m.text = "series(nmos a, parallel(), pmos !b)".toList ∧ m.text ≠ n.text := by
  intro d e m n
  have hgates : m.gates.all Signal.isWritable = true := by decide
  have hgates' : n.gates.all Signal.isWritable = true := by decide
  have hnames : (around m).names.all Signal.isWritable = true := by decide
  have hnames' : (around n).names.all Signal.isWritable = true := by decide
  rw [List.all_eq_true] at hgates hgates' hnames hnames'
  refine ⟨hnames, fun h => ?_, by decide, fun h => ?_⟩
  · have hsame := (text_inj.1 _ _ hnames hnames').mp h
    exact absurd hsame (by decide)
  · have hsame := (text_inj.2 m n hgates hgates').mp h
    exact absurd hsame (by decide)

end Circuit

end SwitchLogic
