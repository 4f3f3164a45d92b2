/-
  Printed values read back.

  Printing and reading are told apart by the tokens between them.  A value has tokens of its own
  (`toTokens`), and

    * the scanner finds them in the printed text, whatever follows it (`spells_render`);
    * the machine makes the value of them, whatever follows them (`run?_toTokens`).

  So every value that a text can carry reads back from its own text (`parse?_render`), and a value
  that does not nest too deep is kept whole (`read?_print`).

  The crux is what "whatever follows" means to the scanner.  A mark or a quote is a token by itself,
  but a word goes on until a delimiter ends it; so a piece of text spells its tokens in front of
  every rest that starts with a delimiter (`Spells`), and two pieces can be put together if the
  second starts with one.
-/
import DebugDesk.Json.Reader
import DebugDesk.Proofs.Json.Atom

namespace DebugDesk.Json

/-! ## What a text can carry -/

mutual

/-- Whether a text can carry a value: nothing in it is unreadable, its integers fit a signed or an
    unsigned word, and its decimals stand as they were read. -/
def Writable : Json → Prop
  | unreadable => False
  | integer n => n.natAbs < UInt64.size
  | decimal literal => number? literal.toList = some (.decimal literal)
  | array items => ItemsWritable items
  | object fields => FieldsWritable fields
  | _ => True

/-- `Writable`, for all items of an array. -/
def ItemsWritable : List Json → Prop
  | [] => True
  | item :: items => item.Writable ∧ ItemsWritable items

/-- `Writable`, for the values of all fields. -/
def FieldsWritable : List (String × Json) → Prop
  | [] => True
  | (_, value) :: fields => value.Writable ∧ FieldsWritable fields

end

/-! ## The tokens of a value -/

mutual

/-- The tokens of a value. -/
def toTokens : Json → List Token
  | string s => [.text (some s)]
  | array [] => [.openArray, .closeArray]
  | array (item :: items) => .openArray :: (toTokens item ++ itemsToTokens items)
  | object [] => [.openObject, .closeObject]
  | object ((name, value) :: fields) =>
    .openObject :: .text (some name) :: .colon :: (toTokens value ++ fieldsToTokens fields)
  | value => [.atom value]

/-- The tokens of the items of an array behind the first, and of its end. -/
def itemsToTokens : List Json → List Token
  | [] => [.closeArray]
  | item :: items => .comma :: (toTokens item ++ itemsToTokens items)

/-- The tokens of the fields of an object behind the first, and of its end. -/
def fieldsToTokens : List (String × Json) → List Token
  | [] => [.closeObject]
  | (name, value) :: fields =>
    .comma :: .text (some name) :: .colon :: (toTokens value ++ fieldsToTokens fields)

end

/-! ## The scanner finds the tokens -/

theorem tokensFrom?_cons (scan : Scan) (c : Char) (rest : List Char) :
    tokensFrom? scan (c :: rest) =
      (advance? scan c).bind fun next => (tokensFrom? next.2 rest).map (next.1 ++ ·) := by
  rw [tokensFrom?]
  rcases advance? scan c with _ | ⟨_ | ⟨token, tokens⟩, next⟩
  · rfl
  · show tokensFrom? next rest = (tokensFrom? next rest).map fun tokens => tokens
    exact Option.map_id'.symm
  · rfl

/-- A character that completes no token is only kept in mind. -/
theorem tokensFrom?_of_silent {scan next : Scan} {c : Char} (h : advance? scan c = some ([], next))
    (rest : List Char) : tokensFrom? scan (c :: rest) = tokensFrom? next rest := by
  rw [tokensFrom?, h]

/-- Whether a word ends in front of a text. -/
def Ends (text : List Char) : Prop := ∀ c ∈ text.head?, c ∈ delimiters

/-- A piece of text gives some tokens, whatever stands behind it that ends a word. -/
def Spells (text : List Char) (tokens : List Token) : Prop :=
  ∀ rest, Ends rest →
    tokensFrom? .between (text ++ rest) = (tokensFrom? .between rest).map (tokens ++ ·)

theorem ends_cons {c : Char} (h : c ∈ delimiters) (rest : List Char) : Ends (c :: rest) := by
  intro d hd
  rwa [← Option.some.inj hd]

namespace Spells

/-- A piece may stand in front of another one that starts with a delimiter. -/
theorem append {text next : List Char} {tokens others : List Token} (h : Spells text tokens)
    (hnext : Spells next others) (hends : ∀ rest, Ends (next ++ rest)) :
    Spells (text ++ next) (tokens ++ others) := by
  intro rest hrest
  rw [List.append_assoc, h _ (hends rest), hnext rest hrest, Option.map_map]
  congr 1
  funext rest
  exact (List.append_assoc tokens others rest).symm

/-- A mark is a token, whatever stands behind it. -/
theorem mark {c : Char} {token : Token} (h : advance? .between c = some ([token], .between))
    {text : List Char} {tokens : List Token} (htext : Spells text tokens) :
    Spells (c :: text) (token :: tokens) := by
  intro rest hrest
  rw [List.cons_append, tokensFrom?_cons, h, Option.bind_some, htext rest hrest, Option.map_map]
  rfl

theorem nil : Spells [] [] := fun _ _ => Option.map_id'.symm

end Spells

/-! ### Words -/

/-- A character of a word starts one or continues it. -/
theorem advance?_of_isInWord {c : Char} (h : isInWord c = true) :
    advance? .between c = some ([], .inWord [c]) ∧
      ∀ raw, advance? (.inWord raw) c = some ([], .inWord (c :: raw)) := by
  simp only [isInWord, delimiters, Bool.not_eq_true', List.contains_eq_mem,
    decide_eq_false_iff_not, List.mem_cons, List.not_mem_nil, or_false, not_or] at h
  simp [advance?, isSpace, mark?, h]

/-- **A delimiter ends a word** and is read as if it stood alone. -/
theorem advance?_of_mem_delimiters {c : Char} (h : c ∈ delimiters) {raw : List Char} {value : Json}
    (hword : atom? raw.reverse = some value) :
    advance? (.inWord raw) c =
      (advance? .between c).map fun next => (.atom value :: next.1, next.2) := by
  simp only [delimiters, List.mem_cons, List.not_mem_nil, or_false] at h
  rcases h with rfl | rfl | rfl | rfl | rfl | rfl | rfl | rfl | rfl | rfl | rfl <;>
    simp [advance?, finished?, hword, isSpace, mark?]

theorem tokensFrom?_inWord_append {word : List Char} (hword : ∀ c ∈ word, isInWord c = true)
    (raw rest : List Char) :
    tokensFrom? (.inWord raw) (word ++ rest) = tokensFrom? (.inWord (word.reverse ++ raw)) rest := by
  induction word generalizing raw with
  | nil => rfl
  | cons c word ih =>
    obtain ⟨hc, hrest⟩ := List.forall_mem_cons.mp hword
    rw [List.cons_append, tokensFrom?_of_silent ((advance?_of_isInWord hc).2 raw), ih hrest]
    simp

theorem tokensFrom?_inWord_of_ends {raw rest : List Char} {value : Json}
    (hword : atom? raw.reverse = some value) (hrest : Ends rest) :
    tokensFrom? (.inWord raw) rest = (tokensFrom? .between rest).map (.atom value :: ·) := by
  cases rest with
  | nil =>
    show finished? (.inWord raw) = _
    rw [finished?, hword]
    rfl
  | cons c rest =>
    rw [tokensFrom?_cons, tokensFrom?_cons, advance?_of_mem_delimiters (hrest c rfl) hword]
    cases advance? .between c with
    | none => rfl
    | some next =>
      simp only [Option.map_some, Option.bind_some, Option.map_map]
      rfl

/-- **A word spells its value.** -/
theorem spells_word {word : List Char} {value : Json} (hvalue : atom? word = some value)
    (hword : word.all isInWord = true) : Spells word [.atom value] := by
  rw [List.all_eq_true] at hword
  intro rest hrest
  cases word with
  | nil => nomatch hvalue
  | cons c word =>
    obtain ⟨hc, htail⟩ := List.forall_mem_cons.mp hword
    rw [List.cons_append, tokensFrom?_of_silent (advance?_of_isInWord hc).1,
      tokensFrom?_inWord_append htail, tokensFrom?_inWord_of_ends _ hrest]
    · rfl
    · simpa using hvalue

/-- A number is a word of its own. -/
theorem spells_number {word : List Char} {value : Json} (h : number? word = some value) :
    Spells word [.atom value] := by
  refine spells_word ?_ (List.all_eq_true.mpr (forall_isInWord_of_number? h))
  -- none of the literals is a number
  have hnot : ∀ literal, number? literal = none → word ≠ literal := by
    rintro _ hnone rfl
    rw [hnone] at h
    nomatch h
  rw [atom?, if_neg (hnot _ (by rfl)), if_neg (hnot _ (by rfl)), if_neg (hnot _ (by rfl)), h]

/-! ### Strings -/

/-- Inside a string, every character but a quote and a backslash stands for itself. -/
theorem advance?_inString {c : Char} (hquote : c ≠ '"') (hbackslash : c ≠ '\\') (raw : List Char) :
    advance? (.inString raw) c = some ([], .inString (c :: raw)) := by
  rw [advance?, if_neg hquote, if_neg hbackslash]

theorem digitChar_ne : ∀ {d : Nat}, d < 16 → Nat.digitChar d ≠ '"' ∧ Nat.digitChar d ≠ '\\' := by
  decide

theorem tokensFrom?_inString_escapeChar (c : Char) (raw rest : List Char) :
    tokensFrom? (.inString raw) (escapeChar c ++ rest) =
      tokensFrom? (.inString ((escapeChar c).reverse ++ raw)) rest := by
  -- what stands behind a backslash is taken unseen
  have hescape (letter : Char) (raw rest : List Char) :
      tokensFrom? (.inString raw) ('\\' :: letter :: rest) =
        tokensFrom? (.inString (letter :: '\\' :: raw)) rest := rfl
  rcases escapeChar_cases c with ⟨letter, hc, _, _⟩ | ⟨hlow, hc⟩ | ⟨hc, hquote, hbackslash, _⟩
  · rw [hc]
    exact hescape letter raw rest
  · obtain ⟨hq, hb⟩ := digitChar_ne (show c.toNat / 16 < 16 by omega)
    obtain ⟨hq', hb'⟩ := digitChar_ne (Nat.mod_lt c.toNat (show 16 > 0 by decide))
    rw [hc]
    simp only [List.cons_append, List.nil_append]
    rw [hescape, tokensFrom?_of_silent (advance?_inString (by decide) (by decide) _),
      tokensFrom?_of_silent (advance?_inString (by decide) (by decide) _),
      tokensFrom?_of_silent (advance?_inString hq hb _),
      tokensFrom?_of_silent (advance?_inString hq' hb' _)]
    rfl
  · rw [hc]
    exact tokensFrom?_of_silent (advance?_inString hquote hbackslash raw) rest

theorem tokensFrom?_inString_flatMap (chars raw rest : List Char) :
    tokensFrom? (.inString raw) (chars.flatMap escapeChar ++ rest) =
      tokensFrom? (.inString ((chars.flatMap escapeChar).reverse ++ raw)) rest := by
  induction chars generalizing raw with
  | nil => rfl
  | cons c chars ih =>
    rw [List.flatMap_cons, List.append_assoc, tokensFrom?_inString_escapeChar, ih,
      List.reverse_append, List.append_assoc]

/-- **A printed string spells its text.** -/
theorem spells_renderString (s : String) : Spells (renderString s) [.text (some s)] := by
  intro rest _
  have hopen : advance? .between '"' = some ([], .inString []) := rfl
  have hclose (raw : List Char) : advance? (.inString raw) '"' =
      (stringOf? raw.reverse).map fun content => ([.text content], .between) := rfl
  rw [renderString, List.cons_append, tokensFrom?_of_silent hopen, List.append_assoc,
    tokensFrom?_inString_flatMap, List.append_nil, List.cons_append, List.nil_append,
    tokensFrom?_cons, hclose, List.reverse_reverse, stringOf?_escaped]
  rfl

/-! ### Values -/

theorem ends_renderItems (items : List Json) (rest : List Char) : Ends (renderItems items ++ rest) := by
  cases items with
  | nil => exact ends_cons (by decide) rest
  | cons item items => exact ends_cons (c := ',') (by decide) _

theorem ends_renderFields (fields : List (String × Json)) (rest : List Char) :
    Ends (renderFields fields ++ rest) := by
  cases fields with
  | nil => exact ends_cons (by decide) rest
  | cons field fields => exact ends_cons (c := ',') (by decide) _

mutual

/-- **The text of a value spells its tokens.** -/
theorem spells_render : ∀ value : Json, value.Writable → Spells value.render value.toTokens
  | null, _ => spells_word (by rfl) (by rfl)
  | bool true, _ => spells_word (by rfl) (by rfl)
  | bool false, _ => spells_word (by rfl) (by rfl)
  | integer _, h => spells_number (number?_renderInteger h)
  | decimal _, h => spells_number h
  | string s, _ => spells_renderString s
  | array [], _ => .mark rfl (.mark rfl .nil)
  | array (item :: items), h =>
    .mark rfl ((spells_render item h.1).append (spells_renderItems items h.2) (ends_renderItems items))
  | object [], _ => .mark rfl (.mark rfl .nil)
  | object ((name, value) :: fields), h =>
    .mark rfl ((spells_renderString name).append
      (.mark rfl ((spells_render value h.1).append (spells_renderFields fields h.2)
        (ends_renderFields fields))) fun _ => ends_cons (by decide) _)
  | unreadable, h => h.elim

theorem spells_renderItems : ∀ items : List Json, ItemsWritable items →
    Spells (renderItems items) (itemsToTokens items)
  | [], _ => .mark rfl .nil
  | item :: items, h =>
    .mark rfl ((spells_render item h.1).append (spells_renderItems items h.2) (ends_renderItems items))

theorem spells_renderFields : ∀ fields : List (String × Json), FieldsWritable fields →
    Spells (renderFields fields) (fieldsToTokens fields)
  | [], _ => .mark rfl .nil
  | (name, value) :: fields, h =>
    .mark rfl ((spells_renderString name).append
      (.mark rfl ((spells_render value h.1).append (spells_renderFields fields h.2)
        (ends_renderFields fields))) fun _ => ends_cons (by decide) _)

end

/-! ## The machine makes the value of the tokens -/

theorem ofFields_named (fields : List (String × Json)) :
    ofFields (fields.map fun f => (some f.1, f.2)) = object fields := by
  have hnames : (fields.map fun f => (some f.1, f.2)).mapM
      (fun f : Option String × Json => f.1.map (·, f.2)) = some fields := by
    induction fields with
    | nil => rfl
    | cons f fields ih => rw [List.map_cons, List.mapM_cons, ih]; rfl
  rw [ofFields, hnames]

/-- The first token of a value does not close the array that it may stand in. -/
theorem run?_firstItem_toTokens (value : Json) (stack : List Pending) (tokens : List Token) :
    run? (.firstItem, stack) (value.toTokens ++ tokens) =
      run? (.value, .items [] :: stack) (value.toTokens ++ tokens) := by
  rcases value with _ | _ | _ | _ | _ | (_ | _) | (_ | ⟨⟨_, _⟩, _⟩) | _ <;> rfl

mutual

/-- **The tokens of a value make the value**, whatever stands behind them. -/
theorem run?_toTokens : ∀ (value : Json) (stack : List Pending) (tokens : List Token),
    run? (.value, stack) (value.toTokens ++ tokens) = run? (.complete value, stack) tokens
  | null, _, _ => rfl
  | bool _, _, _ => rfl
  | integer _, _, _ => rfl
  | decimal _, _, _ => rfl
  | string _, _, _ => rfl
  | unreadable, _, _ => rfl
  | array [], _, _ => rfl
  | array (item :: items), stack, tokens => by
    show run? (.firstItem, stack) (item.toTokens ++ itemsToTokens items ++ tokens) = _
    rw [List.append_assoc, run?_firstItem_toTokens, run?_toTokens item, run?_itemsToTokens items]
    rfl
  | object [], _, _ => rfl
  | object ((name, value) :: fields), stack, tokens => by
    show run? (.value, .field [] (some name) :: stack)
      (value.toTokens ++ fieldsToTokens fields ++ tokens) = _
    rw [List.append_assoc, run?_toTokens value, run?_fieldsToTokens fields]
    exact congrArg (fun value => run? (.complete value, stack) tokens)
      (ofFields_named ((name, value) :: fields))

/-- The items behind the first complete an array. -/
theorem run?_itemsToTokens : ∀ (items : List Json) (before : List Json) (item : Json)
    (stack : List Pending) (tokens : List Token),
    run? (.complete item, .items before :: stack) (itemsToTokens items ++ tokens) =
      run? (.complete (.array (before.reverse ++ item :: items)), stack) tokens
  | [], before, item, stack, tokens => by
    show run? (.complete (.array (item :: before).reverse), stack) tokens = _
    rw [List.reverse_cons]
  | next :: items, before, item, stack, tokens => by
    show run? (.value, .items (item :: before) :: stack)
      (next.toTokens ++ itemsToTokens items ++ tokens) = _
    rw [List.append_assoc, run?_toTokens next, run?_itemsToTokens items, List.reverse_cons,
      List.append_assoc]
    rfl

/-- The fields behind the first complete an object. -/
theorem run?_fieldsToTokens : ∀ (fields : List (String × Json))
    (before : List (Option String × Json)) (name : Option String) (value : Json)
    (stack : List Pending) (tokens : List Token),
    run? (.complete value, .field before name :: stack) (fieldsToTokens fields ++ tokens) =
      run? (.complete (ofFields (before.reverse ++
        (name, value) :: fields.map fun f => (some f.1, f.2))), stack) tokens
  | [], before, name, value, stack, tokens => by
    show run? (.complete (ofFields ((name, value) :: before).reverse), stack) tokens = _
    rw [List.reverse_cons]
    rfl
  | (next, value') :: fields, before, name, value, stack, tokens => by
    show run? (.value, .field ((name, value) :: before) (some next) :: stack)
      (value'.toTokens ++ fieldsToTokens fields ++ tokens) = _
    rw [List.append_assoc, run?_toTokens value', run?_fieldsToTokens fields, List.reverse_cons,
      List.append_assoc]
    rfl

end

/-! ## Printed values read back -/

/-- **The text of a value is a text of this value and no other.** -/
theorem parse?_render {value : Json} (h : value.Writable) : parse? value.render = some value := by
  have htokens : tokens? value.render = some value.toTokens := by
    have hspells := spells_render value h [] fun c hc => nomatch hc
    rw [List.append_nil] at hspells
    rw [tokens?, hspells]
    show some (value.toTokens ++ []) = _
    rw [List.append_nil]
  have hrun : run? (.value, []) value.toTokens = some (.complete value, []) := by
    have hrun := run?_toTokens value [] []
    rwa [List.append_nil] at hrun
  rw [parse?, htokens]
  simp only [hrun]

theorem parse?_print {value : Json} (h : value.Writable) :
    parse? value.print.toList = some value := by
  rw [print, String.toList_ofList, parse?_render h]

/-- **A printed value reads back**, if it does not nest too deep. -/
theorem read?_print {value : Json} (h : value.Writable) (shallow : value.depth ≤ maxDepth) :
    read? value.print = some value := by
  rw [read?, parse?_print h, Option.map_some, within_eq_self value maxDepth shallow]

end DebugDesk.Json
