import TurningGood.Foundation.Json
import Mathlib.Tactic.ByContra
import Mathlib.Tactic.SplitIfs

/-!
# Reading what was written

Reading a written value gives the value back.  A text that begins a written
object but is shorter, and one in which something other than white space
follows an object, are refused.
-/

namespace TurningGood.Foundation.Json

open Reader

variable {reader target : Reader} {char : Char} {value : Json}
  {stack : List Frame} {members : List (CodePoints × Json)} {text : CodePoints}

theorem run_cons (reader : Reader) (point : CodePoint) (text : CodePoints) :
    reader.run (point :: text) = (reader.step point).bind fun target => target.run text :=
  List.foldlM_cons

theorem run_append (reader : Reader) (front back : CodePoints) :
    reader.run (front ++ back) = (reader.run front).bind fun target => target.run back :=
  List.foldlM_append

theorem run_append_of_run {front : CodePoints}
    (first : reader.run front = some target) (back : CodePoints) :
    reader.run (front ++ back) = target.run back := by
  rw [run_append, first, Option.bind_some]

/-! ## Strings -/

theorem hexValue?_hexDigit : ∀ value, value < 16 → hexValue? (hexDigit value) = some value := by
  decide

theorem step_unicode (text : CodePoints) (stack : List Frame) (high : Bool)
    (digits value : Nat) {digit : Nat} (found : hexValue? char = some digit) :
    Reader.step
        { mode := .string text (.unicode high digits value), stack }
        (.scalar char) =
      some (if digits = 3 then
        endUnicode text high (value * 16 + digit) stack
      else
        { mode := .string text
            (.unicode high (digits + 1) (value * 16 + digit))
          stack }) := by
  change (hexValue? char).map _ = _
  rw [found]
  rfl

theorem run_unicode (text : CodePoints) (stack : List Frame) (control : char.toNat < 0x20) :
    Reader.run { mode := .string text (.plain false), stack }
        (textOf ['\\', 'u', '0', '0', hexDigit (char.toNat / 16), hexDigit (char.toNat % 16)]) =
      some {
        mode := .string (text ++ [.scalar char]) (.plain false)
        stack } := by
  have first := hexValue?_hexDigit (char.toNat / 16) (by omega)
  have second := hexValue?_hexDigit (char.toNat % 16) (by omega)
  have prepared :
      Reader.run { mode := .string text (.plain false), stack }
          (textOf ['\\', 'u', '0', '0']) =
        some { mode := .string text (.unicode false 2 0), stack } := rfl
  have joined : (0 * 16 + char.toNat / 16) * 16 + char.toNat % 16 =
      char.toNat := by omega
  have meant : CodePoint.ofNat char.toNat = .scalar char := by
    rw [CodePoint.ofNat, dif_neg (by omega), Char.ofNat_toNat]
  change Reader.run _ (textOf ['\\', 'u', '0', '0'] ++
    [.scalar (hexDigit (char.toNat / 16)), .scalar (hexDigit (char.toNat % 16))]) = _
  rw [run_append_of_run prepared, run_cons, step_unicode _ _ _ _ _ first,
    Option.bind_some, if_neg (by decide), run_cons,
    step_unicode _ _ _ _ _ second, Option.bind_some, if_pos rfl, joined,
    endUnicode, if_neg (by simp), meant]
  have notHigh : decide (0xD800 ≤ char.toNat ∧ char.toNat < 0xDC00) =
      false := decide_eq_false (by omega)
  rw [notHigh]
  rfl

theorem run_escape (text : CodePoints) (stack : List Frame) (point : CodePoint) :
    Reader.run { mode := .string text (.plain false), stack }
        (escape point) =
      some {
        mode := .string (text ++ [point]) (.plain false)
        stack } := by
  cases point with
  | surrogate offset => rfl
  | scalar char =>
    rw [escape, escapeChar]
    split_ifs with quote backslash newline carriage tab feed back control
    · subst quote
      rfl
    · subst backslash
      rfl
    · subst newline
      rfl
    · subst carriage
      rfl
    · subst tab
      rfl
    · have same : char = Char.ofNat 0xC := by
        rw [← feed, Char.ofNat_toNat]
      subst same
      rfl
    · have same : char = Char.ofNat 0x8 := by
        rw [← back, Char.ofNat_toNat]
      subst same
      rfl
    · exact run_unicode text stack control
    · have taken : Reader.step
          { mode := .string text (.plain false), stack }
          (.scalar char) = some {
              mode := .string (text ++ [.scalar char]) (.plain false)
              stack } := by
        change (if _ then _ else _) = _
        rw [if_neg quote, if_neg backslash, if_neg control]
      change (Reader.step _ (.scalar char)).bind _ = _
      rw [taken]
      rfl

theorem run_flatMap_escape (text more : CodePoints) (stack : List Frame) :
    Reader.run { mode := .string text (.plain false), stack }
        (more.flatMap escape) =
      some {
        mode := .string (text ++ more) (.plain false)
        stack } := by
  induction more generalizing text with
  | nil => rw [List.append_nil]; rfl
  | cons point rest induction =>
    rw [List.flatMap_cons, run_append_of_run (run_escape text stack point),
      induction, List.append_assoc]
    rfl

theorem run_stringBody (text : CodePoints) (stack : List Frame) :
    Reader.run { mode := .string [] (.plain false), stack }
        (text.flatMap escape ++ [.scalar '"']) =
      some (endString text stack) := by
  rw [run_append_of_run (run_flatMap_escape [] text stack)]
  rfl

theorem exists_start_of_isNumber {lexeme : List Char} (valid : JsonNumber.isNumber lexeme = true) :
    ∃ first rest, lexeme = first :: rest ∧
      JsonNumber.isNumberStart first = true := by
  cases lexeme with
  | nil => cases valid
  | cons first rest =>
    refine ⟨first, rest, rfl, ?_⟩
    rw [JsonNumber.isNumber, Bool.and_eq_true] at valid
    by_cases minus : first = '-'
    · subst minus
      rfl
    · have unsigned : JsonNumber.isUnsigned (first :: rest) = true := by
        have signed := valid.2
        rw [JsonNumber.isSigned.eq_def] at signed
        split at signed
        · rename_i same
          exact absurd (List.cons.inj same).1 minus
        · exact signed
      rw [JsonNumber.isUnsigned.eq_def] at unsigned
      split at unsigned
      · cases unsigned
      · rename_i same
        rw [(List.cons.inj same).1]
        rfl
      · rename_i digit tail _ same
        rw [(List.cons.inj same).1, JsonNumber.isNumberStart]
        rw [Bool.and_eq_true] at unsigned
        rw [unsigned.1, Bool.true_or]

theorem all_isNumberChar {lexeme : List Char} (valid : JsonNumber.isNumber lexeme = true) :
    ∀ char ∈ lexeme, JsonNumber.isNumberChar char = true := by
  rw [JsonNumber.isNumber, Bool.and_eq_true, List.all_eq_true] at valid
  exact valid.1

theorem run_numberChars (lexeme more : List Char) (stack : List Frame)
    (numeric : ∀ char ∈ more, JsonNumber.isNumberChar char = true) :
    Reader.run { mode := .number lexeme, stack } (textOf more) =
      some { mode := .number (lexeme ++ more), stack } := by
  induction more generalizing lexeme with
  | nil => rw [List.append_nil]; rfl
  | cons char rest induction =>
    have taken : Reader.step { mode := .number lexeme, stack }
        (.scalar char) =
          some { mode := .number (lexeme ++ [char]), stack } :=
      if_pos (numeric char List.mem_cons_self)
    rw [textOf, List.map_cons, run_cons, taken, Option.bind_some]
    change Reader.run _ (textOf rest) = _
    rw [induction _ fun char member =>
      numeric char (List.mem_cons_of_mem _ member), List.append_assoc]
    rfl

/-! ## Values -/

/-- A reader that has just read a value; a number may still go on. -/
def Completed (reader : Reader) (value : Json) (stack : List Frame) :
    Prop :=
  reader = complete value stack ∨ ∃ lexeme, ∃ valid : JsonNumber.isNumber lexeme = true,
      value = .number (.finite lexeme valid) ∧
        reader = { mode := .number lexeme, stack }

theorem Completed.of_complete (value : Json) (stack : List Frame) :
    Completed (complete value stack) value stack :=
  .inl rfl

theorem Completed.step (completed : Completed reader value stack)
    (outside : JsonNumber.isNumberChar char = false)
    (notInfinity : char ≠ 'I') :
    reader.step (.scalar char) = afterValue value stack char := by
  rcases completed with rfl | ⟨lexeme, valid, rfl, rfl⟩
  · rfl
  · change inNumber lexeme stack char = _
    rw [inNumber, if_neg (by rw [outside]; exact Bool.false_ne_true),
      if_neg fun infinite => notInfinity infinite.2, dif_pos valid]

theorem Completed.result? (completed : Completed reader value []) :
    reader.result? = some value := by
  rcases completed with rfl | ⟨lexeme, valid, rfl, rfl⟩
  · rfl
  · change (if _ : _ then _ else _) = _
    rw [dif_pos valid]

theorem dumps_begins (value : Json) :
    ∃ first rest, value.dumps = .scalar first :: rest ∧
      isBlank first = false ∧ first ≠ ']' := by
  cases value with
  | null => exact ⟨_, _, rfl, by decide, by decide⟩
  | bool value =>
    cases value with
    | false => exact ⟨_, _, rfl, by decide, by decide⟩
    | true => exact ⟨_, _, rfl, by decide, by decide⟩
  | number value =>
    cases value with
    | nan => exact ⟨_, _, rfl, by decide, by decide⟩
    | infinity => exact ⟨_, _, rfl, by decide, by decide⟩
    | negativeInfinity => exact ⟨_, _, rfl, by decide, by decide⟩
    | finite lexeme valid =>
      obtain ⟨first, rest, rfl, start⟩ := exists_start_of_isNumber valid
      refine ⟨first, textOf rest, rfl, ?_, ?_⟩
      · by_contra blank
        simp only [isBlank, Bool.not_eq_false, Bool.or_eq_true, decide_eq_true_eq] at blank
        rcases blank with ((rfl | rfl) | rfl) | rfl <;> cases start
      · rintro rfl
        cases start
  | string text => exact ⟨_, _, rfl, by decide, by decide⟩
  | array items =>
    cases items with
    | nil => exact ⟨_, _, rfl, by decide, by decide⟩
    | cons item rest => exact ⟨_, _, rfl, by decide, by decide⟩
  | object members =>
    cases members with
    | nil => exact ⟨_, _, rfl, by decide, by decide⟩
    | cons member rest => exact ⟨_, _, rfl, by decide, by decide⟩

theorem run_firstItem (value : Json) (stack : List Frame) (rest : CodePoints) :
    Reader.run { mode := .firstItem, stack } (value.dumps ++ rest) =
      Reader.run { mode := .value, stack } (value.dumps ++ rest) := by
  obtain ⟨first, tail, begins, notBlank, notClosing⟩ := dumps_begins value
  rw [begins, List.cons_append, run_cons, run_cons]
  congr 1
  change (if isBlank first then _ else if first = ']' then _ else _) =
    if isBlank first then _ else _
  rw [if_neg (by rw [notBlank]; exact Bool.false_ne_true),
    if_neg notClosing,
    if_neg (by rw [notBlank]; exact Bool.false_ne_true)]

theorem run_key (members : List (CodePoints × Json)) (key : CodePoints)
    (stack : List Frame) {mode : Mode}
    (expected : mode = .key ∨ mode = .firstKey) (rest : CodePoints) :
    Reader.run { mode, stack := .object members none :: stack }
        (dumpsString key ++ (textOf [':', ' '] ++ rest)) =
      Reader.run
        { mode := .value, stack := .object members (some key) :: stack }
        rest := by
  have opened : Reader.run
      { mode, stack := .object members none :: stack } (dumpsString key) =
        some { mode := .colon,
               stack := .object members (some key) :: stack } := by
    have body := run_stringBody key (.object members none :: stack)
    rcases expected with rfl | rfl
    · exact body
    · exact body
  rw [run_append_of_run opened]
  rfl

theorem putMember_of_new {key : CodePoints} (value : Json) (new : key ∉ members.map (·.1)) :
    putMember members key value = members ++ [(key, value)] := by
  rw [putMember, if_neg]
  intro present
  rw [List.any_eq_true] at present
  rcases present with ⟨member, inside, same⟩
  exact new (List.mem_map.mpr ⟨member, inside, by simpa using same⟩)

theorem run_number (value : JsonNumber) (stack : List Frame) : ∃ target,
      Reader.run { mode := .value, stack } (dumpsNumber value) =
          some target ∧ Completed target (.number value) stack := by
  cases value with
  | nan => exact ⟨_, rfl, .of_complete _ _⟩
  | infinity => exact ⟨_, rfl, .of_complete _ _⟩
  | negativeInfinity => exact ⟨_, rfl, .of_complete _ _⟩
  | finite lexeme valid =>
    obtain ⟨first, rest, rfl, start⟩ := exists_start_of_isNumber valid
    refine ⟨{ mode := .number (first :: rest), stack }, ?_,
      .inr ⟨_, valid, rfl, rfl⟩⟩
    have begun : Reader.step { mode := .value, stack } (.scalar first) =
        some { mode := .number [first], stack } := by
      change (if isBlank first then _ else beginValue stack first) = _
      rw [if_neg, beginValue, if_pos start]
      intro blank
      simp only [isBlank, Bool.or_eq_true, decide_eq_true_eq] at blank
      rcases blank with ((rfl | rfl) | rfl) | rfl <;> cases start
    rw [dumpsNumber, textOf, List.map_cons, run_cons, begun, Option.bind_some]
    exact run_numberChars [first] rest stack fun char member =>
      all_isNumberChar valid char (List.mem_cons_of_mem _ member)

/-- Where no key of an object is expected. -/
def ValuePlace (stack : List Frame) : Prop := ∀ members rest, stack ≠ .object members none :: rest

theorem valuePlace_array (items : List Json) (stack : List Frame) :
    ValuePlace (.array items :: stack) := by
  intro members rest same
  cases same

theorem valuePlace_object (members : List (CodePoints × Json))
    (key : CodePoints) (stack : List Frame) :
    ValuePlace (.object members (some key) :: stack) := by
  intro others rest same
  cases same

theorem endString_of_valuePlace (text : CodePoints) (place : ValuePlace stack) :
    endString text stack = complete (.string text) stack := by
  rw [endString.eq_def]
  split
  · rename_i members rest
    exact absurd rfl (place members rest)
  · rfl

mutual

theorem run_dumps : (value : Json) → value.Proper → (stack : List Frame) → ValuePlace stack →
    ∃ target,
      Reader.run { mode := .value, stack } value.dumps = some target ∧
        Completed target value stack
  | .null, _, _, _ => ⟨_, rfl, .of_complete _ _⟩
  | .bool true, _, _, _ => ⟨_, rfl, .of_complete _ _⟩
  | .bool false, _, _, _ => ⟨_, rfl, .of_complete _ _⟩
  | .number value, _, stack, _ => run_number value stack
  | .string text, _, stack, place => by
    refine ⟨complete (.string text) stack, ?_, .of_complete _ _⟩
    have body := run_stringBody text stack
    rw [endString_of_valuePlace text place] at body
    exact body
  | .array [], _, _, _ => ⟨_, rfl, .of_complete _ _⟩
  | .array (item :: rest), proper, stack, _ => by
    obtain ⟨target, first, completed⟩ :=
      run_dumps item proper.1 (.array [] :: stack) (valuePlace_array [] stack)
    refine ⟨_, ?_, .of_complete (.array (item :: rest)) stack⟩
    have others := run_dumpsItems rest proper.2 [] item stack completed
    rw [dumps, run_cons]
    change Reader.run { mode := .firstItem, stack := .array [] :: stack }
      (item.dumps ++ dumpsItems rest) = _
    rw [run_firstItem, run_append_of_run first]
    exact others
  | .object [], _, _, _ => ⟨_, rfl, .of_complete _ _⟩
  | .object ((key, value) :: rest), proper, stack, _ => by
    obtain ⟨target, first, completed⟩ :=
      run_dumps value proper.2.1 (.object [] (some key) :: stack) (valuePlace_object [] key stack)
    refine ⟨_, ?_, .of_complete (.object ((key, value) :: rest)) stack⟩
    have others := run_dumpsMembers rest proper.2.2 [] key value stack
      proper.1 completed
    rw [dumps, run_cons]
    change Reader.run
      { mode := .firstKey, stack := .object [] none :: stack } _ = _
    rw [run_key [] key stack (.inr rfl), run_append_of_run first]
    exact others

theorem run_dumpsItems : (rest : List Json) → ProperItems rest →
    (items : List Json) → (item : Json) → (stack : List Frame) →
    {reader : Reader} → Completed reader item (.array items :: stack) →
    Reader.run reader (dumpsItems rest) = some (complete (.array (items ++ item :: rest)) stack)
  | [], _, items, item, stack, reader, completed => by
    rw [dumpsItems, run_cons, completed.step rfl (by decide)]
    rfl
  | next :: rest, proper, items, item, stack, reader, completed => by
    obtain ⟨target, first, after⟩ :=
      run_dumps next proper.1 (.array (items ++ [item]) :: stack) (valuePlace_array _ stack)
    have others := run_dumpsItems rest proper.2 (items ++ [item]) next
      stack after
    rw [dumpsItems]
    change Reader.run reader (.scalar ',' :: (textOf [' '] ++ _)) = _
    rw [run_cons, completed.step rfl (by decide)]
    change Reader.run
      { mode := .value, stack := .array (items ++ [item]) :: stack }
      (next.dumps ++ dumpsItems rest) = _
    rw [run_append_of_run first, others, List.append_assoc]
    rfl

theorem run_dumpsMembers : (rest : List (CodePoints × Json)) →
    ProperMembers rest → (members : List (CodePoints × Json)) →
    (key : CodePoints) → (value : Json) → (stack : List Frame) →
    ((members ++ (key, value) :: rest).map (·.1)).Nodup →
    {reader : Reader} →
    Completed reader value (.object members (some key) :: stack) →
    Reader.run reader (dumpsMembers rest) =
      some (complete (.object (members ++ (key, value) :: rest)) stack)
  | [], _, members, key, value, stack, nodup, reader, completed => by
    have new : key ∉ members.map (·.1) := by
      rw [List.map_append, List.nodup_append] at nodup
      intro member
      exact nodup.2.2 key member key List.mem_cons_self rfl
    rw [dumpsMembers, run_cons, completed.step rfl (by decide)]
    change some (complete (.object (putMember members key value)) stack) = _
    rw [putMember_of_new value new]
  | (next, held) :: rest, proper, members, key, value, stack, nodup,
      reader, completed => by
      have new : key ∉ members.map (·.1) := by
        rw [List.map_append, List.nodup_append] at nodup
        intro member
        exact nodup.2.2 key member key List.mem_cons_self rfl
      obtain ⟨target, first, after⟩ := run_dumps held proper.1
        (.object (members ++ [(key, value)]) (some next) :: stack)
        (valuePlace_object _ next stack)
      have others := run_dumpsMembers rest proper.2
        (members ++ [(key, value)]) next held stack
        (by rw [List.append_assoc]; exact nodup) after
      rw [dumpsMembers]
      change Reader.run reader (.scalar ',' :: (textOf [' '] ++ _)) = _
      rw [run_cons, completed.step rfl (by decide)]
      change Reader.run
        { mode := .key
          stack := .object (putMember members key value) none :: stack }
        (dumpsString next ++ (textOf [':', ' '] ++ (held.dumps ++ dumpsMembers rest))) = _
      rw [run_key _ next stack (.inl rfl), putMember_of_new value new,
        run_append_of_run first, others, List.append_assoc]
      rfl

end

theorem loads_dumps (proper : value.Proper) :
    loads value.dumps = some value := by
  have atTop : ValuePlace [] := by
    intro members rest same
    cases same
  obtain ⟨target, finished, completed⟩ := run_dumps value proper [] atTop
  rw [loads, finished]
  exact completed.result?

/-! ## Texts that are refused -/

theorem run_dumps_object (proper : (object members).Proper) :
    Reader.run { mode := .value, stack := [] } (object members).dumps =
      some (complete (.object members) []) := by
  have atTop : ValuePlace [] := by
    intro members rest same
    cases same
  obtain ⟨target, finished, completed⟩ := run_dumps (object members) proper [] atTop
  rcases completed with rfl | ⟨lexeme, valid, impossible, -⟩
  · exact finished
  · cases impossible

theorem loads_behind_object (proper : (object members).Proper)
    (printed : isBlank char = false) (rest : CodePoints) :
    loads ((object members).dumps ++ .scalar char :: rest) = none := by
  have refused : Reader.step (complete (.object members) [])
      (.scalar char) = none := by
    change (if isBlank char then _ else none) = none
    rw [printed]
    rfl
  rw [loads, run_append_of_run (run_dumps_object proper), run_cons, refused]
  rfl

/-- Whatever is complete at the top is a value. -/
def TopIsDone (reader : Reader) : Prop := reader.stack = [] → ∃ value, reader.mode = .done value

theorem topIsDone_complete (value : Json) (stack : List Frame) :
    TopIsDone (complete value stack) :=
  fun _ => ⟨value, rfl⟩

theorem topIsDone_of_stack (nonempty : stack ≠ [])
    (same : reader.stack = stack) : TopIsDone reader := by
  intro empty
  exact absurd (same.symm.trans empty) nonempty

theorem topIsDone_of_cons {frame : Frame}
    (same : reader.stack = frame :: stack) : TopIsDone reader :=
  topIsDone_of_stack (List.cons_ne_nil frame stack) same

section Stack

variable {stack : List Frame} {char : Char} {target : Reader}

theorem beginValue_topIsDone (nonempty : stack ≠ [])
    (taken : beginValue stack char = some target) : TopIsDone target := by
  rw [beginValue] at taken
  split_ifs at taken <;> cases taken
  all_goals
    first
      | exact topIsDone_of_stack nonempty rfl
      | exact topIsDone_of_cons rfl

theorem afterValue_topIsDone (value : Json) (taken : afterValue value stack char = some target) :
    TopIsDone target := by
  rw [afterValue.eq_def] at taken
  split at taken
  · cases taken
    exact topIsDone_complete value stack
  · split at taken
    · cases taken
    · split_ifs at taken
      · cases taken
        exact topIsDone_of_cons rfl
      · cases taken
        exact topIsDone_complete _ _
    · split_ifs at taken
      · cases taken
        exact topIsDone_of_cons rfl
      · cases taken
        exact topIsDone_complete _ _
    · cases taken

theorem endString_topIsDone (text : CodePoints) (stack : List Frame) :
    TopIsDone (endString text stack) := by
  rw [endString.eq_def]
  split
  · exact topIsDone_of_cons rfl
  · exact topIsDone_complete _ _

theorem endUnicode_stack (text : CodePoints) (high : Bool) (value : Nat) (stack : List Frame) :
    (endUnicode text high value stack).stack = stack := by
  rw [endUnicode]
  split_ifs <;> rfl

theorem inString_topIsDone (nonempty : stack ≠ []) {text : CodePoints}
    {escape : Escape} {point : CodePoint}
    (taken : inString text stack escape point = some target) :
    TopIsDone target := by
  cases escape with
  | plain high =>
    cases point with
    | surrogate offset =>
      cases taken
      exact topIsDone_of_stack nonempty rfl
    | scalar char =>
      rw [inString] at taken
      split_ifs at taken <;> cases taken
      · exact endString_topIsDone text stack
      · exact topIsDone_of_stack nonempty rfl
      · exact topIsDone_of_stack nonempty rfl
  | backslash high =>
    cases point with
    | surrogate offset => cases taken
    | scalar char =>
      rw [inString] at taken
      split_ifs at taken
      · cases taken
        exact topIsDone_of_stack nonempty rfl
      · rcases Option.map_eq_some_iff.mp taken with ⟨meant, -, rfl⟩
        exact topIsDone_of_stack nonempty rfl
  | unicode high digits value =>
    cases point with
    | surrogate offset => cases taken
    | scalar char =>
      rcases Option.map_eq_some_iff.mp taken with ⟨digit, -, rfl⟩
      split_ifs
      · exact topIsDone_of_stack nonempty (endUnicode_stack _ _ _ _)
      · exact topIsDone_of_stack nonempty rfl

theorem inNumber_topIsDone (nonempty : stack ≠ []) {lexeme : List Char}
    (taken : inNumber lexeme stack char = some target) :
    TopIsDone target := by
  rw [inNumber] at taken
  split_ifs at taken
  · cases taken
    exact topIsDone_of_stack nonempty rfl
  · cases taken
    exact topIsDone_of_stack nonempty rfl
  · exact afterValue_topIsDone _ taken

theorem inLiteral_topIsDone (nonempty : stack ≠ []) {value : Json}
    {rest : List Char}
    (taken : inLiteral value stack char rest = some target) :
    TopIsDone target := by
  rw [inLiteral.eq_def] at taken
  split at taken
  · cases taken
  · split_ifs at taken
    cases taken
    exact topIsDone_complete value stack
  · split_ifs at taken
    cases taken
    exact topIsDone_of_stack nonempty rfl

end Stack

theorem token_topIsDone (nonempty : stack ≠ []) {mode : Mode}
    (taken : token stack char mode = some target) : TopIsDone target := by
  cases mode with
  | value =>
    rw [token] at taken
    split_ifs at taken
    · cases taken
      exact topIsDone_of_stack nonempty rfl
    · exact beginValue_topIsDone nonempty taken
  | firstItem =>
    rw [token] at taken
    split_ifs at taken
    · cases taken
      exact topIsDone_of_stack nonempty rfl
    · cases taken
      exact topIsDone_complete _ _
    · exact beginValue_topIsDone nonempty taken
  | firstKey =>
    rw [token] at taken
    split_ifs at taken <;> cases taken
    · exact topIsDone_of_stack nonempty rfl
    · exact topIsDone_complete _ _
    · exact topIsDone_of_stack nonempty rfl
  | key | colon =>
    rw [token] at taken
    split_ifs at taken <;> cases taken
    · exact topIsDone_of_stack nonempty rfl
    · exact topIsDone_of_stack nonempty rfl
  | string text escape => exact inString_topIsDone nonempty taken
  | number lexeme => exact inNumber_topIsDone nonempty taken
  | literal rest value => exact inLiteral_topIsDone nonempty taken
  | done value => exact afterValue_topIsDone value taken

theorem TopIsDone.step {point : CodePoint} (top : TopIsDone reader)
    (taken : reader.step point = some target) : TopIsDone target := by
  rcases reader with ⟨mode, stack⟩
  by_cases empty : stack = []
  · obtain ⟨value, rfl⟩ : ∃ value, mode = .done value := top empty
    cases point with
    | surrogate offset => cases taken
    | scalar char => exact afterValue_topIsDone value taken
  · cases point with
    | surrogate offset =>
      cases mode with
      | string text escape => exact inString_topIsDone empty taken
      | _ => cases taken
    | scalar char =>
      have token : Reader.token stack char mode = some target := by
        cases mode <;> exact taken
      exact token_topIsDone empty token

theorem TopIsDone.run (top : TopIsDone reader)
    (finished : reader.run text = some target) : TopIsDone target := by
  induction text generalizing reader with
  | nil =>
    cases finished
    exact top
  | cons point rest induction =>
    rw [run_cons, Option.bind_eq_some_iff] at finished
    rcases finished with ⟨middle, taken, finished⟩
    exact induction (top.step taken) finished

theorem blank_of_run_done (finished : Reader.run (complete value []) text = some target) :
    ∀ point ∈ text, ∃ char, point = .scalar char ∧ isBlank char = true := by
  induction text with
  | nil =>
    intro point member
    cases member
  | cons first rest induction =>
    rw [run_cons, Option.bind_eq_some_iff] at finished
    rcases finished with ⟨middle, taken, finished⟩
    cases first with
    | surrogate offset => cases taken
    | scalar char =>
      have blank : isBlank char = true := by
        by_contra printed
        have refused : afterValue value [] char = none := by
          rw [afterValue, if_neg printed]
        cases refused.symm.trans taken
      have same : middle = complete value [] := by
        have stays : afterValue value [] char =
            some (complete value []) := by
          rw [afterValue, if_pos blank]
        exact (Option.some.inj (stays.symm.trans taken)).symm
      intro point member
      rcases List.mem_cons.mp member with rfl | later
      · exact ⟨char, rfl, blank⟩
      · exact induction (same ▸ finished) point later

theorem dumps_object_ends (members : List (CodePoints × Json)) :
    ∃ front, (object members).dumps = front ++ [.scalar '}'] := by
  have others : ∀ rest : List (CodePoints × Json),
      ∃ front, dumpsMembers rest = front ++ [.scalar '}'] := by
    intro rest
    induction rest with
    | nil => exact ⟨[], rfl⟩
    | cons member rest induction =>
      rcases induction with ⟨front, same⟩
      rw [dumpsMembers, same]
      exact ⟨textOf [',', ' '] ++ (dumpsString member.1 ++
        (textOf [':', ' '] ++ (member.2.dumps ++ front))), by
          simp only [List.append_assoc]⟩
  cases members with
  | nil => exact ⟨[.scalar '{'], rfl⟩
  | cons member rest =>
    rcases others rest with ⟨front, same⟩
    rw [dumps, same]
    exact ⟨.scalar '{' :: (dumpsString member.1 ++
      (textOf [':', ' '] ++ (member.2.dumps ++ front))), by
        simp only [List.append_assoc, List.cons_append]⟩

theorem topIsDone_within_object (begins : text <+: (object members).dumps)
    {middle : Reader}
    (first : Reader.run { mode := .value, stack := [] } text = some middle) :
    TopIsDone middle ∨ text = [] := by
  cases text with
  | nil => exact .inr rfl
  | cons point rest =>
    left
    have brace : point = .scalar '{' := by
      cases members with
      | nil => exact (List.cons_prefix_cons.mp begins).1
      | cons member others => exact (List.cons_prefix_cons.mp begins).1
    subst brace
    rw [run_cons] at first
    change Reader.run
      { mode := .firstKey, stack := [.object [] none] } rest = _ at first
    exact TopIsDone.run (topIsDone_of_cons rfl) first

theorem stack_of_result? (accepted : reader.result? = some value) :
    reader.stack = [] := by
  rcases reader with ⟨mode, stack⟩
  cases stack with
  | nil => rfl
  | cons frame rest => cases mode <;> cases accepted

theorem loads_of_cut_object (proper : (object members).Proper)
    (begins : text <+: (object members).dumps)
    (shorter : text ≠ (object members).dumps) : loads text = none := by
  obtain ⟨missing, same⟩ := id begins
  have lacks : missing ≠ [] := by
    rintro rfl
    exact shorter (by rw [← same, List.append_nil])
  have brace : .scalar '}' ∈ missing := by
    rcases dumps_object_ends members with ⟨front, ends⟩
    have last : (text ++ missing).getLast? = some (.scalar '}') := by
      rw [same, ends, List.getLast?_concat]
    rw [List.getLast?_append_of_ne_nil _ lacks] at last
    exact List.mem_of_getLast? last
  have finished := run_dumps_object proper
  rw [← same, run_append] at finished
  rcases Option.bind_eq_some_iff.mp finished with ⟨middle, first, second⟩
  rw [loads, first, Option.bind_some]
  cases accepted : middle.result? with
  | none => rfl
  | some value =>
    rcases topIsDone_within_object begins first with top | empty
    · have stack := stack_of_result? accepted
      rcases middle with ⟨mode, stack'⟩
      cases stack
      obtain ⟨held, rfl⟩ := top rfl
      rcases blank_of_run_done second _ brace with ⟨char, same, blank⟩
      cases same
      cases blank
    · subst empty
      cases first
      cases accepted

end TurningGood.Foundation.Json
