import CandleFeed.Proofs.Json.Grammar

/-!
# Texts that are read back

Whatever is written can be read: **`Json.echo`** is what the text of a value reads back to, and
**`Json.read_render_echo`** says so for every value.  An echo differs from its value in numbers
only: a floating-point value may come back as another or as null, and a whole number that 64 bits
do not hold as a floating-point value.  Strings may hold any characters (`run_charText`), and arrays
and objects may nest to any depth: inside them the reader goes through the text of a value to the
delimiter after it (`takes`).

A value is **`Json.Plain`** if whole numbers in it fit 64 bits, floating-point values are such as
their own texts read back to, and nothing is unreadable.  Such a value is its own echo
(**`Plain.echo_eq`**), and so it is read from its text (**`Json.read_render`**).
-/

namespace CandleFeed.Json

/-- A value that is read as it is written. -/
inductive Plain : Json → Prop where
  | null : Plain .null
  | bool (b : Bool) : Plain (.bool b)
  | int (n : Int) (h : holds64 n = true) : Plain (.int n)
  | float (x : Float) (h : Kept x) : Plain (.float x)
  | str (s : String) : Plain (.str s)
  | arr (xs : List Json) (h : ∀ x ∈ xs, Plain x) : Plain (.arr xs)
  | obj (ms : List (String × Json)) (h : ∀ m ∈ ms, Plain m.2) : Plain (.obj ms)

/-- What a text that is a number denotes. -/
def denoted (cs : List Char) : Json := (read (String.ofList cs)).getD .unreadable

mutual

/-- What the text of a value reads back to. -/
def echo : Json → Json
  | .null => .null
  | .bool b => .bool b
  | .int n => denoted (intText n)
  | .float x => if x.isFinite then denoted (floatText x) else .null
  | .str s => .str s
  | .arr xs => .arr (echoItems xs)
  | .obj ms => .obj (echoMembers ms)
  | .unreadable => .null

/-- What the texts of items read back to. -/
def echoItems : List Json → List Json
  | [] => []
  | x :: xs => echo x :: echoItems xs

/-- What the texts of members read back to. -/
def echoMembers : List (String × Json) → List (String × Json)
  | [] => []
  | (k, x) :: ms => (k, echo x) :: echoMembers ms

end

theorem echoItems_eq (xs : List Json) : echoItems xs = xs.map echo := by
  induction xs with
  | nil => rfl
  | cons x xs ih => rw [echoItems, ih, List.map_cons]

theorem echoMembers_eq (ms : List (String × Json)) :
    echoMembers ms = ms.map fun m => (m.1, echo m.2) := by
  induction ms with
  | nil => rfl
  | cons m ms ih => rw [echoMembers, ih, List.map_cons]

namespace Reading

/-! ## Strings -/

/-- A hexadecimal digit has the value that it was written for. -/
theorem digitValue?_hexDigit : ∀ d < 16, Text.digitValue? (hexDigit d) = some d := by decide

/-- A unit that is no half of a surrogate pair is a character. -/
theorem pushUnit_of_lt (t : StringText) {n : Nat} (h : n < 0xD800) :
    t.pushUnit n = t.push (Char.ofNat n) := by
  unfold StringText.pushUnit
  rw [if_neg (by simp; omega), if_neg (by simp; omega)]

/-- One of the digits of a numbered escape, but not its last. -/
theorem step_unit (r : Reading) (t : StringText) {left d : Nat} (value : Nat) (hleft : 1 < left)
    (hd : d < 16) : ({ r with expected := .unit t left value } : Reading).step (hexDigit d) =
      some { r with expected := .unit t (left - 1) (value * 16 + d) } := by
  simp only [step, digitValue?_hexDigit d hd, Option.map_some, if_neg (Nat.not_le.mpr hleft)]

/-- The last digit of a numbered escape. -/
theorem step_unit_one (r : Reading) (t : StringText) {d : Nat} (value : Nat) (hd : d < 16) :
    ({ r with expected := .unit t 1 value } : Reading).step (hexDigit d) =
      some { r with expected := .text (t.pushUnit (value * 16 + d)) } := by
  simp only [step, digitValue?_hexDigit d hd, Option.map_some, if_pos (Nat.le_refl 1)]

/-- **A character of a string is read from its text**, whichever character it is. -/
theorem run_charText (r : Reading) (t : StringText) (c : Char) (rest : List Char) :
    ({ r with expected := .text t } : Reading).run (charText c ++ rest) =
      ({ r with expected := .text (t.push c) } : Reading).run rest := by
  unfold charText
  split
  iterate 7 rfl
  rename_i hquote hbackslash _ _ _ _ _
  split
  · -- a control character, by its number
    rename_i hcontrol
    have hunit : t.pushUnit ((0 * 16 + c.toNat / 16) * 16 + c.toNat % 16) = t.push c := by
      rw [Nat.zero_mul, Nat.zero_add, Nat.div_add_mod', pushUnit_of_lt t (by omega),
        Char.ofNat_toNat]
    have hzeros : ({ r with expected := .text t } : Reading).run
        (['\\', 'u', '0', '0', hexDigit (c.toNat / 16), hexDigit (c.toNat % 16)] ++ rest) =
          ({ r with expected := .unit t 2 0 } : Reading).run
            (hexDigit (c.toNat / 16) :: hexDigit (c.toNat % 16) :: rest) := rfl
    rw [hzeros, run, step_unit r t 0 (by omega) (by omega), Option.bind_some, run,
      step_unit_one r t _ (by omega), hunit]
    rfl
  · rename_i hvisible
    have hstep : ({ r with expected := .text t } : Reading).step c =
        some { r with expected := .text (t.push c) } := by
      simp only [step, beq_iff_eq, hvisible, if_false]
      rw [if_neg hquote, if_neg hbackslash]
    rw [List.singleton_append, run, hstep]
    rfl

/-- The characters of a string are read from their texts. -/
theorem run_charTexts (r : Reading) (t : StringText) (cs rest : List Char) :
    ({ r with expected := .text t } : Reading).run (cs.flatMap charText ++ rest) =
      ({ r with expected := .text (cs.foldl .push t) } : Reading).run rest := by
  induction cs generalizing t with
  | nil => rfl
  | cons c cs ih =>
    rw [List.flatMap_cons, List.append_assoc, run_charText, ih]
    rfl

/-- Whole characters leave no half of a pair behind. -/
theorem foldl_push (cs acc : List Char) (isName : Bool) :
    cs.foldl .push (⟨acc, none, true, isName⟩ : StringText) =
      ⟨cs.reverse ++ acc, none, true, isName⟩ := by
  induction cs generalizing acc with
  | nil => rfl
  | cons c cs ih =>
    rw [List.reverse_cons, List.append_assoc]
    exact ih (c :: acc)

/-- What has been read of a string when its last quote comes. -/
theorem finish?_foldl_push (s : String) (isName : Bool) :
    (s.toList.foldl .push (⟨[], none, true, isName⟩ : StringText)).finish? = some s := by
  rw [foldl_push, StringText.finish?, List.append_nil, List.reverse_reverse, String.ofList_toList]
  rfl

/-- It is a name or a value as it was when it began. -/
theorem isName_foldl_push (s : String) (isName : Bool) :
    (s.toList.foldl .push (⟨[], none, true, isName⟩ : StringText)).isName = isName := by
  rw [foldl_push]

/-- **A string is read where a value may come.** -/
theorem AwaitsValue.run_str {r : Reading} (h : r.AwaitsValue) (s : String) (rest : List Char) :
    r.run (stringText s ++ rest) = (r.put (.str s)).run rest := by
  let t := s.toList.foldl StringText.push ⟨[], none, true, false⟩
  have hquote : ({ r with expected := .text t } : Reading).step '"' = some (r.put (.str s)) := by
    have hvalue : t.isName = false := isName_foldl_push s false
    have hend : ({ r with expected := .text t } : Reading).step '"' =
        some (({ r with expected := .text t } : Reading).putText t) := rfl
    rw [hend, putText, hvalue, finish?_foldl_push, if_neg (by decide), put_of_expected]
    rfl
  have hbegin : r.step '"' = some { r with expected := .text ⟨[], none, true, false⟩ } :=
    h.step rfl (by decide)
  rw [stringText, List.append_assoc, List.cons_append, run, hbegin, Option.bind_some, run_charTexts,
    List.singleton_append, run, hquote]
  rfl

/-- A member's name may come. -/
def AwaitsName (r : Reading) : Prop := r.expected = .name ∨ r.expected = .nameOrEnd

/-- **A name and its colon are read where a name may come.** -/
theorem AwaitsName.run_name {r : Reading} (h : r.AwaitsName) {ms : List (String × Json)}
    {name : String} {outer : List Container} (hobj : r.containers = .obj ms name true :: outer)
    (k : String) (rest : List Char) :
    r.run (stringText k ++ ':' :: rest) =
      Reading.run ⟨.value, .obj ms k true :: outer, r.result⟩ rest := by
  let t := k.toList.foldl StringText.push ⟨[], none, true, true⟩
  have hquote : ({ r with expected := .text t } : Reading).step '"' =
      some { r with expected := .colon, containers := .obj ms k true :: outer } := by
    have hname : t.isName = true := isName_foldl_push k true
    have hend : ({ r with expected := .text t } : Reading).step '"' =
        some (({ r with expected := .text t } : Reading).putText t) := rfl
    rw [hend, putText, hname, finish?_foldl_push, if_pos rfl]
    simp only [hobj]
    rfl
  have hbegin : r.step '"' = some { r with expected := .text ⟨[], none, true, true⟩ } := by
    unfold step
    rcases h with h | h
    all_goals rw [h]
    all_goals rfl
  rw [stringText, List.append_assoc, List.cons_append, run, hbegin, Option.bind_some, run_charTexts,
    List.singleton_append, run, hquote]
  rfl

/-! ## Whole values -/

/-- Where a value may come, the reader goes through its text to the delimiter after it, and then
has its echo. -/
def Takes (v : Json) : Prop :=
  ∀ (r : Reading), r.AwaitsValue → ∀ c, isDelimiter c = true → ∀ rest,
    r.run (chars v ++ c :: rest) = (r.put (echo v)).run (c :: rest)

/-- A value is complete inside an array. -/
theorem put_arr {r : Reading} {acc : List Json} {outer : List Container}
    (h : r.containers = .arr acc :: outer) (v : Json) :
    r.put v = { r with expected := .next, containers := .arr (v :: acc) :: outer } := by
  simp only [put, h]

/-- A value is complete inside an object. -/
theorem put_obj {r : Reading} {ms : List (String × Json)} {k : String} {ok : Bool}
    {outer : List Container} (h : r.containers = .obj ms k ok :: outer) (v : Json) :
    r.put v = { r with expected := .next, containers := .obj ((k, v) :: ms) k ok :: outer } := by
  simp only [put, h]

/-- The items of an array are read up to its end. -/
theorem run_items {x : Json} {xs : List Json} (hx : Takes x) (h : ∀ y ∈ xs, Takes y) {r : Reading}
    (hr : r.AwaitsValue) {acc : List Json} {outer : List Container}
    (harr : r.containers = .arr acc :: outer) (rest : List Char) :
    r.run (itemChars (x :: xs) ++ ']' :: rest) =
      (Reading.put ⟨.next, outer, r.result⟩
        (.arr ((echo x :: acc).reverse ++ echoItems xs))).run rest := by
  induction xs generalizing r acc x with
  | nil =>
    have hclose : Reading.step ⟨.next, .arr (echo x :: acc) :: outer, r.result⟩ ']' =
        some (Reading.put ⟨.next, outer, r.result⟩ (.arr (echo x :: acc).reverse)) := rfl
    rw [itemChars, hx r hr _ rfl, put_arr harr, run, hclose, echoItems, List.append_nil]
    rfl
  | cons y ys ih =>
    have hcomma : Reading.step ⟨.next, .arr (echo x :: acc) :: outer, r.result⟩ ',' =
        some ⟨.value, .arr (echo x :: acc) :: outer, r.result⟩ := rfl
    rw [itemChars, List.append_assoc, List.cons_append, hx r hr _ rfl, put_arr harr, run, hcomma,
      Option.bind_some, ih (h y List.mem_cons_self) (fun z hz => h z (List.mem_cons_of_mem _ hz))
        (.inl rfl) rfl, echoItems, List.reverse_cons, List.append_assoc, List.singleton_append]

/-- The members of an object are read up to its end. -/
theorem run_members {k : String} {x : Json} {ms : List (String × Json)} (hx : Takes x)
    (h : ∀ m ∈ ms, Takes m.2) {r : Reading} (hr : r.AwaitsName)
    {acc : List (String × Json)} {name : String} {outer : List Container}
    (hobj : r.containers = .obj acc name true :: outer) (rest : List Char) :
    r.run (memberChars ((k, x) :: ms) ++ '\x7d' :: rest) =
      (Reading.put ⟨.next, outer, r.result⟩
        (.obj (((k, echo x) :: acc).reverse ++ echoMembers ms))).run rest := by
  induction ms generalizing r acc k x name with
  | nil =>
    have hclose : Reading.step ⟨.next, .obj ((k, echo x) :: acc) k true :: outer, r.result⟩ '\x7d' =
        some (Reading.put ⟨.next, outer, r.result⟩ (.obj ((k, echo x) :: acc).reverse)) := rfl
    rw [memberChars, List.append_assoc, List.cons_append, hr.run_name hobj, hx _ (.inl rfl) _ rfl,
      put_obj rfl, run, hclose, echoMembers, List.append_nil]
    rfl
  | cons m ms ih =>
    have hcomma : Reading.step ⟨.next, .obj ((k, echo x) :: acc) k true :: outer, r.result⟩ ',' =
        some ⟨.name, .obj ((k, echo x) :: acc) k true :: outer, r.result⟩ := rfl
    rw [memberChars, List.append_assoc, List.append_assoc, List.cons_append, hr.run_name hobj,
      List.cons_append, hx _ (.inl rfl) _ rfl, put_obj rfl, run, hcomma, Option.bind_some,
      ih (h m List.mem_cons_self) (fun m' hm' => h m' (List.mem_cons_of_mem _ hm')) (.inl rfl) rfl,
      echoMembers, List.reverse_cons, List.append_assoc, List.singleton_append]

/-- A word is read to its end. -/
theorem run_word (r : Reading) (d : Char) (ds : List Char) (v : Json) (rest : List Char) :
    ({ r with expected := .word (d :: ds) v } : Reading).run (d :: ds ++ rest) =
      (r.put v).run rest := by
  induction ds generalizing d with
  | nil =>
    have hend : ({ r with expected := .word [d] v } : Reading).step d = some (r.put v) := by
      simp only [step, beq_self_eq_true, if_true, put_of_expected]
    rw [List.singleton_append, run, hend, Option.bind_some]
  | cons e es ih =>
    have hnext : ({ r with expected := .word (d :: e :: es) v } : Reading).step d =
        some { r with expected := .word (e :: es) v } := by
      simp only [step, beq_self_eq_true, if_true]
    rw [List.cons_append, run, hnext, Option.bind_some, ih]

/-- A word is read where a value may come. -/
theorem AwaitsValue.run_word {r : Reading} (h : r.AwaitsValue) {c d : Char} {ds : List Char}
    {v : Json} (hc : isGap c = false ∧ c ≠ ']')
    (hbegin : r.beginValue c = some { r with expected := .word (d :: ds) v }) (rest : List Char) :
    r.run (c :: d :: ds ++ rest) = (r.put v).run rest := by
  rw [List.cons_append, run, h.step hc.1 hc.2, hbegin, Option.bind_some, Reading.run_word]

/-- An array is read where a value may come, if its items are. -/
theorem AwaitsValue.run_arr {r : Reading} (h : r.AwaitsValue) {xs : List Json}
    (hxs : ∀ x ∈ xs, Takes x) (rest : List Char) :
    r.run (chars (.arr xs) ++ rest) = (r.put (echo (.arr xs))).run rest := by
  have hbegin : r.step '[' = some ⟨.itemOrEnd, .arr [] :: r.containers, r.result⟩ :=
    h.step rfl (by decide)
  rw [chars, List.append_assoc, List.cons_append, run, hbegin, Option.bind_some]
  cases xs with
  | nil =>
    rw [← put_of_expected r .next]
    rfl
  | cons x xs =>
    rw [← put_of_expected r .next]
    exact run_items (r := ⟨.itemOrEnd, _, _⟩) (hxs x List.mem_cons_self)
      (fun y hy => hxs y (List.mem_cons_of_mem _ hy)) (.inr rfl) rfl rest

/-- An object is read where a value may come, if the values of its members are. -/
theorem AwaitsValue.run_obj {r : Reading} (h : r.AwaitsValue) {ms : List (String × Json)}
    (hms : ∀ m ∈ ms, Takes m.2) (rest : List Char) :
    r.run (chars (.obj ms) ++ rest) = (r.put (echo (.obj ms))).run rest := by
  have hbegin : r.step '\x7b' = some ⟨.nameOrEnd, .obj [] "" true :: r.containers, r.result⟩ :=
    h.step rfl (by decide)
  rw [chars, List.append_assoc, List.cons_append, run, hbegin, Option.bind_some,
    ← put_of_expected r .next]
  cases ms with
  | nil => rfl
  | cons m ms =>
    exact run_members (r := ⟨.nameOrEnd, _, _⟩) (hms m List.mem_cons_self)
      (fun m' hm' => hms m' (List.mem_cons_of_mem _ hm')) (.inr rfl) rfl rest

end Reading

open Reading

/-- A number by itself is a text to read. -/
theorem read_of_reads {cs : List Char} {v : Json} (h : NumberText.Reads cs v) :
    read (String.ofList cs) = some v := by
  obtain ⟨c, rest, t, t', rfl, hstart, hall, hfinish⟩ := h
  have hbegin : Reading.start.step c = some { Reading.start with expected := .number t } :=
    AwaitsValue.step_number (.inl rfl) hstart
  have hrun := run_pushAll .start hall []
  rw [List.append_nil] at hrun
  rw [read, String.toList_ofList, run, hbegin, Option.bind_some, hrun]
  exact hfinish

/-- A text that is a number reads as what it denotes. -/
theorem reads_denoted {cs : List Char} (h : ∃ v, NumberText.Reads cs v) :
    NumberText.Reads cs (denoted cs) := by
  obtain ⟨v, hreads⟩ := h
  rwa [denoted, read_of_reads hreads, Option.getD_some]

/-- What a number denotes is what it reads as. -/
theorem denoted_of_reads {cs : List Char} {v : Json} (h : NumberText.Reads cs v) :
    denoted cs = v := by
  rw [denoted, read_of_reads h, Option.getD_some]

/-- A finite value is written as a number. -/
theorem reads_floatText (x : Float) : NumberText.Reads (floatText x) (denoted (floatText x)) := by
  obtain ⟨v, hreads, -⟩ := exists_reads_floatText x
  exact reads_denoted ⟨v, hreads⟩

/-! ## Echoes -/

mutual

/-- **The reader goes through the text of a value to the delimiter after it.** -/
theorem takes : ∀ v : Json, Takes v
  | .null => fun r hr c _ rest => hr.run_word ⟨rfl, by decide⟩ rfl (c :: rest)
  | .bool false => fun r hr c _ rest => hr.run_word ⟨rfl, by decide⟩ rfl (c :: rest)
  | .bool true => fun r hr c _ rest => hr.run_word ⟨rfl, by decide⟩ rfl (c :: rest)
  | .int n => fun r hr c hc rest => hr.run_reads (reads_denoted (exists_reads_intText n)) hc rest
  | .float x => by
    intro r hr c hc rest
    rw [chars, echo]
    split
    · exact hr.run_reads (reads_floatText x) hc rest
    · exact hr.run_word ⟨rfl, by decide⟩ rfl (c :: rest)
  | .str s => fun r hr c _ rest => hr.run_str s (c :: rest)
  | .arr xs => fun r hr c _ rest => hr.run_arr (takes_items xs) (c :: rest)
  | .obj ms => fun r hr c _ rest => hr.run_obj (takes_members ms) (c :: rest)
  | .unreadable => fun r hr c _ rest => hr.run_word ⟨rfl, by decide⟩ rfl (c :: rest)

/-- So it does with items. -/
theorem takes_items : ∀ xs : List Json, ∀ x ∈ xs, Takes x
  | [] => nofun
  | x :: xs => List.forall_mem_cons.mpr ⟨takes x, takes_items xs⟩

/-- So it does with members. -/
theorem takes_members : ∀ ms : List (String × Json), ∀ m ∈ ms, Takes m.2
  | [] => nofun
  | (_, x) :: ms => List.forall_mem_cons.mpr ⟨takes x, takes_members ms⟩

end

/-- A text that takes the reader to a complete value is read as that value. -/
theorem read_of_run {cs : List Char} {v : Json}
    (h : Reading.start.run (cs ++ []) = (Reading.start.put v).run []) :
    read (String.ofList cs) = some v := by
  rw [List.append_nil] at h
  rw [read, String.toList_ofList, h]
  rfl

/-- **Every value is read from its text, as its echo.** -/
theorem read_render_echo (v : Json) : read (render v) = some (echo v) := by
  have hstart : Reading.start.AwaitsValue := .inl rfl
  have hnull : read (String.ofList "null".toList) = some .null :=
    read_of_run (hstart.run_word ⟨rfl, by decide⟩ rfl [])
  cases v with
  | null => exact hnull
  | bool b =>
    cases b with
    | false => exact read_of_run (hstart.run_word ⟨rfl, by decide⟩ rfl [])
    | true => exact read_of_run (hstart.run_word ⟨rfl, by decide⟩ rfl [])
  | int n => exact read_of_reads (reads_denoted (exists_reads_intText n))
  | float x =>
    rw [render, chars, echo]
    split
    · exact read_of_reads (reads_floatText x)
    · exact hnull
  | str s => exact read_of_run (hstart.run_str s [])
  | arr xs => exact read_of_run (hstart.run_arr (takes_items xs) [])
  | obj ms => exact read_of_run (hstart.run_obj (takes_members ms) [])
  | unreadable => exact hnull

/-- A floating-point value that is its own echo is one that its text reads back to. -/
theorem echo_float_eq_iff (x : Float) :
    read (render (.float x)) = some (.float x) ↔ echo (.float x) = .float x := by
  rw [read_render_echo, Option.some.injEq]

/-- **A plain value is its own echo.** -/
theorem Plain.echo_eq {v : Json} (h : Plain v) : echo v = v := by
  induction h with
  | null => rfl
  | bool b => rfl
  | int n hn => exact denoted_of_reads (reads_intText hn)
  | float x hx => exact (echo_float_eq_iff x).mp hx.2
  | str s => rfl
  | arr xs _ ih =>
    rw [echo, echoItems_eq, List.map_congr_left ih, List.map_id']
  | obj ms _ ih =>
    have hms : ∀ m ∈ ms, (m.1, echo m.2) = m := fun m hm => Prod.ext rfl (ih m hm)
    rw [echo, echoMembers_eq, List.map_congr_left hms, List.map_id']

/-- **A plain value is read from its text.** -/
theorem read_render {v : Json} (h : Plain v) : read (render v) = some v := by
  rw [read_render_echo, h.echo_eq]

end CandleFeed.Json
