import HubSpoke.Json.Reader
import HubSpoke.Proofs.Json.Numeral
import HubSpoke.Proofs.KeyMap
import HubSpoke.Proofs.Outcome

/-!
# Canonical texts read back

`Spells text outline` says what one reading step preserves: wherever a value may begin, reading the
text puts the outline.  It is proved of the text of each kind of value, for arrays and objects from
the texts of what they hold, and `parse?_canonical` follows by induction on the value.

Nothing marks the end of a numeral but the symbol that comes next.  So `Spells` speaks of the
reader once it is settled and of the reader after one more delimiter, and not of the reader itself.
-/

namespace HubSpoke.Json

namespace Reader

/-- The reader after more characters. -/
def run (r : Reader) (chars : List Char) : Reader :=
  (chars.map some).foldl step r

@[simp] theorem run_nil (r : Reader) : r.run [] = r := rfl

@[simp] theorem run_cons (r : Reader) (c : Char) (chars : List Char) :
    r.run (c :: chars) = (r.step (some c)).run chars := rfl

theorem run_append (r : Reader) (chars more : List Char) :
    r.run (chars ++ more) = (r.run chars).run more := by
  simp [run]

/-- A value may begin. -/
structure Ready (r : Reader) : Prop where
  between : r.mode = .between
  awaitsValue : r.awaitsValue
  /-- A value among members follows a key. -/
  notMembers : ∀ done rest, r.frames ≠ .members done :: rest

variable {r : Reader}

theorem ready_start : start.Ready := ⟨rfl, rfl, nofun⟩

/-- A value lands in the innermost container, whatever was awaited. -/
theorem put_congr (hr : r.Ready) (other : Reader) (hframes : other.frames = r.frames)
    (hroot : other.root = r.root) (outline : Outline) : other.put outline = r.put outline := by
  obtain ⟨-, -, hmembers⟩ := hr
  obtain ⟨mode, awaited, frames, root⟩ := r
  obtain ⟨mode', awaited', frames', root'⟩ := other
  obtain rfl : frames = frames' := hframes.symm
  obtain rfl : root = root' := hroot.symm
  match frames, hmembers with
  | [], _ => rfl
  | .items _ :: _, _ => rfl
  | .member _ _ :: _, _ => rfl
  | .members done :: rest, h => exact absurd rfl (h done rest)

theorem Ready.put_mode (hr : r.Ready) (outline : Outline) : (r.put outline).mode = .between := by
  obtain ⟨-, -, hmembers⟩ := hr
  obtain ⟨mode, awaited, frames, root⟩ := r
  match frames, hmembers with
  | [], _ => rfl
  | .items _ :: _, _ => rfl
  | .member _ _ :: _, _ => rfl
  | .members done :: rest, h => exact absurd rfl (h done rest)

theorem Ready.awaitsKey (hr : r.Ready) : r.awaitsKey = false := by
  obtain ⟨-, hvalue, hmembers⟩ := hr
  obtain ⟨mode, awaited, frames, root⟩ := r
  cases awaited with
  | first => match frames, hmembers with
      | [], _ => rfl
      | .items _ :: _, _ => rfl
      | .member _ _ :: _, _ => rfl
      | .members done :: rest, h => exact absurd rfl (h done rest)
  | key => cases hvalue
  | _ => rfl

theorem settle_of_between (h : r.mode = .between) : r.settle = r := by
  rw [settle, h]

theorem step_of_between (h : r.mode = .between) (symbol : Option Char) :
    r.step symbol = r.begin symbol := by
  rw [step, h]

end Reader

open Reader

/-! ## What a text puts -/

/-- The symbols that may follow a value inside a container. -/
def delimiters : List Char := [',', ']', '}']

/-- Wherever a value may begin, reading the text puts the outline. -/
structure Spells (text : List Char) (outline : Outline) : Prop where
  settle {r : Reader} (hr : r.Ready) : (r.run text).settle = r.put outline
  delimit {r : Reader} (hr : r.Ready) {c : Char} (hc : c ∈ delimiters) :
    (r.run text).step (some c) = (r.put outline).step (some c)

theorem Spells.of_run {text : List Char} {outline : Outline}
    (h : ∀ r : Reader, r.Ready → r.run text = r.put outline) : Spells text outline where
  settle {r} hr := by
    rw [h r hr]
    exact settle_of_between (hr.put_mode outline)
  delimit {r} hr _ _ := by rw [h r hr]

variable {r : Reader}

/-! ## Words -/

theorem run_word {word due : List Char} {first : Char} {outline : Outline} (hr : r.Ready)
    (hword : word = first :: due) (hdue : due ≠ [])
    (hbegin : r.begin (some first) = r.beginWord due outline) : r.run word = r.put outline := by
  have hrest (due : List Char) (hdue : due ≠ []) :
      run { r with mode := .word due outline } due = r.put outline := by
    induction due with
    | nil => exact absurd rfl hdue
    | cons c due ih =>
        cases due with
        | nil =>
            simp only [run_cons, run_nil, step, List.head?_cons, Option.map_some, if_true,
              List.length_cons, List.length_nil, Nat.zero_add, le_refl]
            exact put_congr hr _ rfl rfl outline
        | cons next due =>
            rw [run_cons]
            simpa [step] using ih (by simp)
  rw [hword, run_cons, step_of_between hr.between, hbegin, beginWord, if_pos hr.awaitsValue]
  exact hrest due hdue

theorem spells_null : Spells "null".toList .null :=
  .of_run fun _ hr => run_word hr rfl (by decide) rfl

theorem spells_true : Spells "true".toList (.bool true) :=
  .of_run fun _ hr => run_word hr rfl (by decide) rfl

theorem spells_false : Spells "false".toList (.bool false) :=
  .of_run fun _ hr => run_word hr rfl (by decide) rfl

/-! ## Numerals -/

theorem NumeralDraft.extend?_delimiter (draft : NumeralDraft) {c : Char} (hc : c ∈ delimiters) :
    draft.extend? c = none := by
  obtain ⟨phase, negative, digits, places, powerNegative, power⟩ := draft
  simp only [delimiters, List.mem_cons, List.not_mem_nil, or_false] at hc
  rcases hc with rfl | rfl | rfl <;> cases phase <;> rfl

/-- A numeral begins where no other token does. -/
theorem begin_numeral {c : Char} {draft : NumeralDraft}
    (hstart : NumeralDraft.start? c = some draft) (hr : r.Ready) :
    r.begin (some c) = { r with mode := .numeral draft } := by
  simp only [begin]
  split
  case h_15 =>
    rw [hstart]
    exact if_pos hr.awaitsValue
  all_goals cases hstart

theorem run_numeral {draft longer : NumeralDraft} {chars : List Char}
    (h : draft.extendAll? chars = some longer) :
    run { r with mode := .numeral draft } chars = { r with mode := .numeral longer } := by
  induction chars generalizing draft with
  | nil =>
      obtain rfl := Option.some.inj h
      rfl
  | cons c chars ih =>
      rw [NumeralDraft.extendAll?_cons] at h
      obtain ⟨next, hnext, hmore⟩ := Option.bind_eq_some_iff.mp h
      rw [run_cons]
      simpa [step, hnext] using ih hmore

theorem spells_numeral {numeral : Numeral} {chars : List Char} (h : numeral.SpelledBy chars) :
    Spells chars (.number numeral) := by
  obtain ⟨draft, hdraft, hfinish⟩ := h
  have hrun {r : Reader} (hr : r.Ready) : r.run chars = { r with mode := .numeral draft } := by
    cases chars with
    | nil => cases hdraft
    | cons c chars =>
        obtain ⟨first, hstart, hmore⟩ := Option.bind_eq_some_iff.mp hdraft
        rw [run_cons, step_of_between hr.between, begin_numeral hstart hr]
        exact run_numeral hmore
  have hsettle {r : Reader} (hr : r.Ready) :
      Reader.settle { r with mode := .numeral draft } = r.put (.number numeral) := by
    simp only [Reader.settle, hfinish]
    exact put_congr hr _ rfl rfl _
  refine ⟨fun hr => ?_, fun {r} hr {c} hc => ?_⟩
  · rw [hrun hr]
    exact hsettle hr
  · have hdigit : c.isDigit = false := by
      simp only [delimiters, List.mem_cons, List.not_mem_nil, or_false] at hc
      rcases hc with rfl | rfl | rfl <;> rfl
    have hmode := hr.put_mode (.number numeral)
    rw [hrun hr, step_of_between hmode]
    simp only [step, Option.bind_some, draft.extend?_delimiter hc, Option.any_some, hdigit,
      Bool.false_eq_true, if_false, hsettle hr, hmode]

/-! ## Strings -/

theorem hexDigit?_hexDigitChar : ∀ d < 16, hexDigit? (hexDigitChar d) = some d := by decide

/-- A control character without a letter of its own is escaped by its number. -/
theorem run_escaped_control {c : Char} (hcontrol : c.toNat < 0x20) (reversed : List Char) :
    run { r with mode := .text ⟨reversed, none, true⟩ .none }
        ['\\', 'u', '0', '0', hexDigitChar (c.toNat / 16), hexDigitChar (c.toNat % 16)] =
      { r with mode := .text ⟨c :: reversed, none, true⟩ .none } := by
  have hhigh := hexDigit?_hexDigitChar (c.toNat / 16) (by omega)
  have hlow := hexDigit?_hexDigitChar (c.toNat % 16) (by omega)
  have hvalue : c.toNat / 16 * 16 + c.toNat % 16 = c.toNat := by omega
  have hpush : TextDraft.pushUnit ⟨reversed, none, true⟩ c.toNat =
      ⟨c :: reversed, none, true⟩ := by
    have hhalf : ¬(0xD800 ≤ c.toNat ∧ c.toNat < 0xDC00) := by omega
    have hother : ¬(0xDC00 ≤ c.toNat ∧ c.toNat < 0xE000) := by omega
    simp [TextDraft.pushUnit, TextDraft.push, hhalf, hother]
  have hzero : hexDigit? '0' = some 0 := rfl
  simp [step, stepText, hzero, hhigh, hlow, hvalue, hpush]

theorem run_escapeChar (c : Char) (reversed : List Char) :
    run { r with mode := .text ⟨reversed, none, true⟩ .none } (escapeChar c) =
      { r with mode := .text ⟨c :: reversed, none, true⟩ .none } := by
  rw [escapeChar]
  split_ifs with hquote hslash hb hf hn hr ht hcontrol
  any_goals
    subst c
    rfl
  · exact run_escaped_control hcontrol reversed
  · simp [step, stepText, TextDraft.push, hquote, hslash, hcontrol]

theorem run_escaped (chars reversed : List Char) :
    run { r with mode := .text ⟨reversed, none, true⟩ .none } (chars.flatMap escapeChar) =
      { r with mode := .text ⟨chars.reverse ++ reversed, none, true⟩ .none } := by
  induction chars generalizing reversed with
  | nil => rfl
  | cons c chars ih =>
      rw [List.flatMap_cons, run_append, run_escapeChar, ih, List.reverse_cons,
        List.append_assoc, List.singleton_append]

theorem run_quoted (hbetween : r.mode = .between) (hawaits : r.awaitsValue || r.awaitsKey)
    (text : String) : ∃ mode, r.run (quoted text) = putText { r with mode } (some text) := by
  refine ⟨.text ⟨text.toList.reverse, none, true⟩ .none, ?_⟩
  have hbegin : r.begin (some '"') = { r with mode := .text ⟨[], none, true⟩ .none } :=
    if_pos hawaits
  have hfinish : TextDraft.finish ⟨text.toList.reverse, none, true⟩ = some text := by
    simp [TextDraft.finish]
  rw [quoted, run_cons, step_of_between hbetween, hbegin, run_append, run_escaped,
    List.append_nil]
  simp [step, stepText, hfinish]

theorem spells_text (text : String) : Spells (quoted text) (.text (some text)) :=
  .of_run fun r hr => by
    obtain ⟨mode, hrun⟩ := run_quoted hr.between (by simp [hr.awaitsValue]) text
    have hkey : Reader.awaitsKey { r with mode } = false := hr.awaitsKey
    rw [hrun, putText, hkey]
    exact put_congr hr _ rfl rfl _

/-- What was written between quotes is told by the text. -/
theorem quoted_injective {text other : String} (h : quoted text = quoted other) : text = other := by
  -- one text can be read as one value only
  have hread := (spells_text text).settle ready_start
  rw [h, (spells_text other).settle ready_start] at hread
  simp only [put, start, Reader.mk.injEq, Option.some.injEq, Outline.text.injEq] at hread
  exact hread.2.2.2.symm

/-! ## Containers -/

/-- Entries with commas between them.  `holding done awaited` is the reader inside the container
that holds the entries `done`, the last one first. -/
theorem run_commaSeparated {ε : Type} (holding : List ε → Awaited → Reader) (again : Awaited)
    {Reads : List Char → ε → Prop}
    (hcomma : ∀ done, (holding done .next).step (some ',') = holding done again)
    (hentry : ∀ text entry, Reads text entry → ∀ done awaited, awaited = .first ∨ awaited = again →
      ∀ c ∈ delimiters, ((holding done awaited).run text).step (some c) =
        (holding (entry :: done) .next).step (some c))
    {texts : List (List Char)} {entries : List ε} (h : List.Forall₂ Reads texts entries)
    (hne : texts ≠ []) (done : List ε) {awaited : Awaited}
    (hawaited : awaited = .first ∨ awaited = again) {c : Char} (hc : c ∈ delimiters) :
    ((holding done awaited).run (commaSeparated texts)).step (some c) =
      (holding (entries.reverse ++ done) .next).step (some c) := by
  induction h generalizing done awaited with
  | nil => exact absurd rfl hne
  | @cons text entry texts entries hhead htail ih =>
      -- an entry ends where its delimiter is read: the last one at `c`, the others at a comma
      cases htail with
      | nil => exact hentry text entry hhead done awaited hawaited c hc
      | cons hnext hmore =>
          rw [commaSeparated, run_append, run_cons,
            hentry text entry hhead done awaited hawaited ',' (by decide), hcomma,
            ih (by simp) (entry :: done) (.inr rfl)]
          · simp
          · simp

namespace Reader

/-- The reader inside an array. -/
def inItems (r : Reader) (done : List Outline) (awaited : Awaited) : Reader :=
  { r with mode := .between, awaited, frames := .items done :: r.frames }

/-- The reader inside an object, between members. -/
def inMembers (r : Reader) (done : List (Option String × Outline)) (awaited : Awaited) : Reader :=
  { r with mode := .between, awaited, frames := .members done :: r.frames }

/-- The reader inside an object, after a key. -/
def inMember (r : Reader) (done : List (Option String × Outline)) (key : Option String)
    (awaited : Awaited) : Reader :=
  { r with mode := .between, awaited, frames := .member done key :: r.frames }

theorem step_closeItems (hr : r.Ready) (done : List Outline) {awaited : Awaited}
    (hawaited : awaited = .first ∨ awaited = .next) :
    (r.inItems done awaited).step (some ']') = r.put (.array done.reverse true) :=
  calc (r.inItems done awaited).step (some ']')
      = put ⟨.between, awaited, r.frames, r.root⟩ (.array done.reverse true) :=
        if_pos hawaited
    _ = r.put (.array done.reverse true) :=
        put_congr hr ⟨.between, awaited, r.frames, r.root⟩ rfl rfl _

theorem step_closeMembers (hr : r.Ready) (done : List (Option String × Outline)) {awaited : Awaited}
    (hawaited : awaited = .first ∨ awaited = .next) :
    (r.inMembers done awaited).step (some '}') = r.put (.object done.reverse true) :=
  calc (r.inMembers done awaited).step (some '}')
      = put ⟨.between, awaited, r.frames, r.root⟩ (.object done.reverse true) :=
        if_pos hawaited
    _ = r.put (.object done.reverse true) :=
        put_congr hr ⟨.between, awaited, r.frames, r.root⟩ rfl rfl _

theorem ready_inItems (done : List Outline) {awaited : Awaited}
    (hawaited : awaited = .first ∨ awaited = .value) : (r.inItems done awaited).Ready :=
  ⟨rfl, by rcases hawaited with rfl | rfl <;> rfl, nofun⟩

theorem ready_inMember (done : List (Option String × Outline)) (key : Option String) :
    (r.inMember done key .value).Ready :=
  ⟨rfl, rfl, nofun⟩

end Reader

theorem spells_array {texts : List (List Char)} {items : List Outline}
    (h : List.Forall₂ Spells texts items) :
    Spells ('[' :: (commaSeparated texts ++ [']'])) (.array items true) := by
  refine .of_run fun r hr => ?_
  have hopen : r.begin (some '[') = r.inItems [] .first := by
    rw [inItems, ← hr.between]
    exact if_pos hr.awaitsValue
  rw [run_cons, step_of_between hr.between, hopen, run_append, run_cons, run_nil]
  by_cases hne : texts = []
  · subst hne
    cases h
    exact step_closeItems hr [] (.inl rfl)
  · rw [run_commaSeparated r.inItems .value (fun _ => rfl)
        (fun text item hspells done awaited hawaited c hc => ?_) h hne [] (.inl rfl) (by decide),
      step_closeItems hr _ (.inr rfl), List.append_nil, List.reverse_reverse]
    exact hspells.delimit (ready_inItems done hawaited) hc

/-- A text spells a member: its key between quotes, a colon and its value. -/
def SpellsMember (text : List Char) (member : Option String × Outline) : Prop :=
  ∃ key value, text = quoted key ++ ':' :: value ∧ member.1 = some key ∧ Spells value member.2

theorem step_member {text : List Char} {member : Option String × Outline}
    (h : SpellsMember text member) (done : List (Option String × Outline)) {awaited : Awaited}
    (hawaited : awaited = .first ∨ awaited = .key) {c : Char} (hc : c ∈ delimiters) :
    ((r.inMembers done awaited).run text).step (some c) =
      (r.inMembers (member :: done) .next).step (some c) := by
  obtain ⟨key, outline⟩ := member
  obtain ⟨text, value, rfl, rfl, hvalue⟩ := h
  have hawaitsKey : (r.inMembers done awaited).awaitsKey := by
    rcases hawaited with rfl | rfl <;> rfl
  obtain ⟨mode, hkey⟩ := run_quoted (r := r.inMembers done awaited) rfl (by simp [hawaitsKey]) text
  have hcolon : (putText { r.inMembers done awaited with mode } (some text)).step (some ':') =
      r.inMember done (some text) .value := by
    rw [putText, if_pos (show awaitsKey { r.inMembers done awaited with mode } from hawaitsKey)]
    rfl
  rw [run_append, run_cons, hkey, hcolon, hvalue.delimit (ready_inMember done _) hc]
  rfl

theorem spells_object {texts : List (List Char)} {members : List (Option String × Outline)}
    (h : List.Forall₂ SpellsMember texts members) :
    Spells ('{' :: (commaSeparated texts ++ ['}'])) (.object members true) := by
  refine .of_run fun r hr => ?_
  have hopen : r.begin (some '{') = r.inMembers [] .first := by
    rw [inMembers, ← hr.between]
    exact if_pos hr.awaitsValue
  rw [run_cons, step_of_between hr.between, hopen, run_append, run_cons, run_nil]
  by_cases hne : texts = []
  · subst hne
    cases h
    exact step_closeMembers hr [] (.inl rfl)
  · rw [run_commaSeparated r.inMembers .key (fun _ => rfl)
        (fun text member hspells done awaited hawaited c hc =>
          step_member hspells done hawaited hc) h hne [] (.inl rfl) (by decide),
      step_closeMembers hr _ (.inr rfl), List.append_nil, List.reverse_reverse]

/-! ## Values -/

theorem canonicalItems_eq (items : List Json) :
    canonicalItems items = items.map canonicalChars := by
  induction items with
  | nil => rfl
  | cons item rest ih => rw [canonicalItems, ih, List.map_cons]

theorem canonicalMembers_eq (members : List (String × Json)) :
    canonicalMembers members =
      members.map fun member => (String.ofList (quoted member.1), canonicalChars member.2) := by
  induction members with
  | nil => rfl
  | cons member rest ih => rw [canonicalMembers, ih, List.map_cons]

/-- The members are written in the order of their written keys, which need not be the order of the
keys. -/
theorem exists_written_order {members : List (String × Json)}
    (hascending : (members.map Prod.fst).Pairwise (· < ·)) :
    ∃ ordered : List (String × Json), ordered.Perm members ∧
      KeyMap.sort (canonicalMembers members) =
        ordered.map fun member => (String.ofList (quoted member.1), canonicalChars member.2) := by
  have hnodup : ((canonicalMembers members).map Prod.fst).Nodup := by
    rw [canonicalMembers_eq, List.map_map]
    have hkeys := KeyMap.nodup_of_ascending hascending
    rw [List.Nodup, List.pairwise_map] at hkeys ⊢
    exact hkeys.imp fun hne heq => hne (quoted_injective (String.ofList_inj.mp heq))
  have hperm := KeyMap.perm_sort hnodup
  rw [canonicalMembers_eq] at hperm ⊢
  obtain ⟨ordered, hordered, hmembers⟩ :=
    (congrFun₂ (List.eq_map_comp_perm _) _ members).mpr hperm
  exact ⟨ordered, hmembers, hordered⟩

variable [FloatReading] {levels : Nat}

/-- The text spells an outline whose value is the given one. -/
def Denotes (levels : Nat) (text : List Char) (value : Json) : Prop :=
  ∃ outline, Spells text outline ∧ outline.value? levels = some value

/-- The text spells a member with the given key and value. -/
def DenotesMember (levels : Nat) (text : List Char) (member : String × Json) : Prop :=
  ∃ value, text = quoted member.1 ++ ':' :: value ∧ Denotes levels value member.2

theorem items?_eq_some {values : List Json} {items : List Outline}
    (h : List.Forall₂ (fun value item => item.value? levels = some value) values items) :
    Outline.items? levels items = some values := by
  induction h with
  | nil => rfl
  | cons hhead _ ih =>
      rw [Outline.items?, hhead, ih]
      rfl

theorem members?_eq_some {values : List (String × Json)} {members : List (Option String × Outline)}
    (h : List.Forall₂ (fun value member =>
      member.1 = some value.1 ∧ member.2.value? levels = some value.2) values members) :
    Outline.members? levels members = some values := by
  induction h with
  | nil => rfl
  | @cons value member values members hhead _ ih =>
      obtain ⟨key, outline⟩ := member
      obtain ⟨hkey, hvalue⟩ := hhead
      dsimp only at hkey hvalue
      rw [Outline.members?, hkey, hvalue, ih]
      rfl

theorem denotes_array {texts : List (List Char)} {values : List Json}
    (h : List.Forall₂ (Denotes levels) texts values) :
    Denotes (levels + 1) ('[' :: (commaSeparated texts ++ [']'])) (.arr values) := by
  obtain ⟨items, hspells, hvalues⟩ := List.exists_between h fun _ _ hpair => hpair
  refine ⟨_, spells_array hspells, ?_⟩
  simp [Outline.value?, items?_eq_some hvalues]

theorem denotes_object {texts : List (List Char)} {members : List (String × Json)}
    (h : List.Forall₂ (DenotesMember levels) texts members) :
    Denotes (levels + 1) ('{' :: (commaSeparated texts ++ ['}'])) (ofMembers members) := by
  obtain ⟨spelled, hspells, hvalues⟩ := List.exists_between h
    (S := SpellsMember) (T := fun value member =>
      member.1 = some value.1 ∧ member.2.value? levels = some value.2)
    fun text member ⟨value, htext, outline, hspells, hvalue⟩ =>
      ⟨(some member.1, outline), ⟨member.1, value, htext, rfl, hspells⟩, rfl, hvalue⟩
  refine ⟨_, spells_object hspells, ?_⟩
  simp [Outline.value?, members?_eq_some hvalues]

/-- The canonical text of a value that fits denotes it, but for floats. -/
theorem denotes_canonicalChars {value : Json} (h : value.fits .any levels) :
    Denotes levels (canonicalChars value) (value.mapFloats Binary64.respelled) := by
  induction value generalizing levels with
  | null => exact ⟨_, spells_null, rfl⟩
  | bool value => cases value with
      | true => exact ⟨_, spells_true, rfl⟩
      | false => exact ⟨_, spells_false, rfl⟩
  | int n =>
      obtain ⟨numeral, hspelled, hvalue⟩ := exists_numeral_int (by simpa [fits] using h)
      exact ⟨_, spells_numeral hspelled, hvalue⟩
  | float x =>
      obtain ⟨numeral, hspelled, hvalue⟩ := exists_numeral_float x
      exact ⟨_, spells_numeral hspelled, hvalue⟩
  | str text => exact ⟨_, spells_text text, rfl⟩
  | arr items ih =>
      obtain ⟨hlevels, hitems⟩ := fits_arr.mp h
      obtain ⟨inner, rfl⟩ : ∃ inner, levels = inner + 1 := ⟨levels - 1, by omega⟩
      rw [canonicalChars, canonicalItems_eq, mapFloats_arr]
      refine denotes_array ?_
      rw [List.forall₂_map_left_iff, List.forall₂_map_right_iff, List.forall₂_same]
      exact fun item hitem => ih item hitem (hitems item hitem)
  | obj members ih =>
      obtain ⟨hlevels, hascending, hmembers⟩ := fits_obj.mp h
      obtain ⟨inner, rfl⟩ : ∃ inner, levels = inner + 1 := ⟨levels - 1, by omega⟩
      obtain ⟨ordered, hperm, hwritten⟩ := exists_written_order hascending
      have hsorted : mapFloats Binary64.respelled (.obj members) = ofMembers (ordered.map
          fun member => (member.1, member.2.mapFloats Binary64.respelled)) := by
        rw [mapFloats_obj, ofMembers, KeyMap.sort_eq_of_perm (hperm.map _)]
        rw [List.map_map]
        exact hascending
      rw [canonicalChars, hwritten, hsorted, List.map_map]
      refine denotes_object ?_
      rw [List.forall₂_map_left_iff, List.forall₂_map_right_iff, List.forall₂_same]
      intro member hmember
      have hmem := hperm.mem_iff.mp hmember
      exact ⟨_, by simp, ih member hmem (hmembers member hmem)⟩

/-- The canonical text of a value that fits spells an outline of it, whatever levels are read. -/
theorem exists_outline_canonical {value : Json} (h : value.fits .any levels) :
    ∃ outline : Outline, outline.value? levels = some (value.mapFloats Binary64.respelled) ∧
      ∀ more, parseWithin? more value.canonical = outline.value? more := by
  obtain ⟨outline, hspells, hvalue⟩ := denotes_canonicalChars h
  have hsettled := hspells.settle ready_start
  have hsymbols : readSymbols (symbols value.canonical) = start.run (canonicalChars value) := by
    simp [readSymbols, symbols, canonical, run]
  have hdone : (start.run (canonicalChars value)).isDone := by
    rw [isDone, hsettled]
    rfl
  have houtline : (start.run (canonicalChars value)).outline = outline := by
    rw [Reader.outline, hsettled]
    rfl
  exact ⟨outline, hvalue, fun more => by rw [parseWithin?, hsymbols, if_pos hdone, houtline]⟩

/-- Reading the canonical text of a document gives the document, but for floats. -/
theorem parse?_canonical {value : Json} (h : value.fits .any maxDepth) :
    parse? value.canonical = some (value.mapFloats Binary64.respelled) := by
  obtain ⟨outline, hvalue, hread⟩ := exists_outline_canonical h
  rw [parse?, hread, hvalue]

/-! ## What texts spell fits -/

theorem Numeral.fits_of_value? {numeral : Numeral} {value : Json}
    (h : numeral.value? = some value) : value.fits .any levels := by
  simp only [Numeral.value?] at h
  generalize (if numeral.negative then -(numeral.digits : Int) else numeral.digits) = whole at h
  split at h
  case isTrue hwhole =>
    obtain rfl := Option.some.inj h
    exact hwhole.2.1
  case isFalse =>
    obtain ⟨x, -, rfl⟩ := Option.map_eq_some_iff.mp h
    rfl

mutual

/-- The value of an outline is one that documents hold. -/
theorem fits_of_value? {value : Json} :
    ∀ {levels : Nat} (outline : Outline), outline.value? levels = some value →
      value.fits .any levels
  | _, .null, h | _, .bool _, h => by
      obtain rfl := Option.some.inj h
      rfl
  | _, .number _, h => Numeral.fits_of_value? h
  | _, .text _, h => by
      obtain ⟨text, -, rfl⟩ := Option.map_eq_some_iff.mp h
      rfl
  | levels, .array items closed, h => by
      rw [Outline.value?] at h
      split at h
      case isTrue => cases h
      case isFalse hopen =>
        obtain ⟨values, hvalues, rfl⟩ := Option.map_eq_some_iff.mp h
        exact fits_arr.mpr ⟨by omega, fits_of_items? items hvalues⟩
  | levels, .object members closed, h => by
      rw [Outline.value?] at h
      split at h
      case isTrue => cases h
      case isFalse hopen =>
        obtain ⟨values, hvalues, rfl⟩ := Option.map_eq_some_iff.mp h
        refine fits_obj.mpr ⟨by omega, KeyMap.ascending_sort values, fun member hmember => ?_⟩
        exact fits_of_members? members hvalues member (KeyMap.mem_of_mem_sort hmember)
  | _, .broken, h => absurd h nofun

theorem fits_of_items? {levels : Nat} {values : List Json} :
    ∀ items : List Outline, Outline.items? levels items = some values →
      ∀ value ∈ values, value.fits .any levels
  | [], h => by
      obtain rfl := Option.some.inj h
      simp
  | item :: rest, h => by
      simp only [Outline.items?, bind, Option.bind_eq_some_iff, pure, Option.some.injEq] at h
      obtain ⟨value, hvalue, values, hvalues, rfl⟩ := h
      exact List.forall_mem_cons.mpr ⟨fits_of_value? item hvalue, fits_of_items? rest hvalues⟩

theorem fits_of_members? {levels : Nat} {values : List (String × Json)} :
    ∀ members : List (Option String × Outline), Outline.members? levels members = some values →
      ∀ member ∈ values, member.2.fits .any levels
  | [], h => by
      obtain rfl := Option.some.inj h
      simp
  | (key, item) :: rest, h => by
      simp only [Outline.members?, bind, Option.bind_eq_some_iff, pure, Option.some.injEq] at h
      obtain ⟨key, -, value, hvalue, members, hmembers, rfl⟩ := h
      exact List.forall_mem_cons.mpr ⟨fits_of_value? item hvalue, fits_of_members? rest hmembers⟩

end

/-- Every document read from a text fits. -/
theorem fits_of_parse? {text : String} {value : Json} (h : parse? text = some value) :
    value.fits .any maxDepth := by
  rw [parse?, parseWithin?] at h
  split at h
  case isTrue => exact fits_of_value? _ h
  case isFalse => cases h

end HubSpoke.Json
