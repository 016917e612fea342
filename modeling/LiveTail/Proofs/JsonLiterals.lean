import LiveTail.Proofs.Encoding
import LiveTail.Document.Json
import LiveTail.Text.Json
/-!
# Reading back the JSON the host writes

The host writes its lines with `Json.quote`, `Json.quoteBytes` and `Json.object`, and the
document reader reads JSON from the octets of a text. Every quoted text reads back as itself,
whatever characters it holds: escapes, markup characters, line separators and characters
outside ASCII included. Octets that are UTF-8 are written as the text they encode, and an
object of such members reads back as its members in order. No literal holds a raw newline.
-/
namespace LiveTail
namespace Json

theorem pushChar_eq_append (acc : String) (c : Char) : pushChar acc c = acc ++ pushChar "" c := by
  unfold pushChar
  split <;> (try split) <;> simp [String.append_assoc]

theorem pushChar_ne_empty (c : Char) : pushChar "" c ≠ "" := by
  unfold pushChar
  split <;> (try split) <;> simp

theorem foldl_pushChar (cs : List Char) (acc : String) :
    cs.foldl pushChar acc = acc ++ String.join (cs.map (pushChar "")) := by
  induction cs generalizing acc with
  | nil => simp
  | cons c cs ih => rw [List.foldl_cons, ih, pushChar_eq_append, List.map_cons, String.join_cons, String.append_assoc]

/-- A quoted text is its characters escaped one by one, between quotes. -/
theorem quote_eq (s : String) : quote s = "\"" ++ String.join (s.toList.map (pushChar "")) ++ "\"" := by
  rw [quote, String.foldl_eq_foldl_toList, foldl_pushChar, String.push_eq_append]
  rfl

/-- Escaping octets that encode characters escapes those characters. -/
theorem pushFrom_encoded (b : ByteArray) (i : Nat) (acc : String) (cs : List Char)
    (h : b.data.toList.drop i = cs.flatMap String.utf8EncodeChar) :
    pushFrom b i acc = acc ++ String.join (cs.map (pushChar "")) := by
  fun_induction pushFrom b i acc generalizing cs with
  | case1 i acc hi c k hc ih =>
    obtain ⟨d, ds, rfl⟩ := Utf8.exists_cons_of_drop hi h
    rw [Utf8.charAt?_of_drop h] at hc
    obtain ⟨rfl, rfl⟩ := Prod.mk.inj (Option.some.inj hc)
    have hpos := List.length_pos_iff.mpr (String.utf8EncodeChar_ne_nil (c := d))
    have hdrop : b.data.toList.drop (i + ((String.utf8EncodeChar d).length - 1) + 1) =
        ds.flatMap String.utf8EncodeChar := by
      rw [show i + ((String.utf8EncodeChar d).length - 1) + 1 =
          i + (String.utf8EncodeChar d).length by omega, ← List.drop_drop, h, List.flatMap_cons,
        List.drop_left]
    rw [ih ds hdrop, pushChar_eq_append, List.map_cons, String.join_cons, String.append_assoc]
  | case2 i acc hi hc =>
    obtain ⟨d, ds, rfl⟩ := Utf8.exists_cons_of_drop hi h
    rw [Utf8.charAt?_of_drop h] at hc
    cases hc
  | case3 i acc hi =>
    have hnil : cs.flatMap String.utf8EncodeChar = [] := by
      rw [← h]
      exact List.drop_eq_nil_of_le (by simp; omega)
    cases cs with
    | nil => simp
    | cons d ds =>
      rw [List.flatMap_cons, List.append_eq_nil_iff] at hnil
      exact absurd hnil.1 String.utf8EncodeChar_ne_nil

/-- Texts joined by commas: the first, then each of the others after a comma. -/
theorem intercalate_comma (x : String) (xs : List String) :
    ",".intercalate (x :: xs) = x ++ String.join (xs.map fun y => "," ++ y) := by
  induction xs generalizing x with
  | nil => rw [String.intercalate_singleton, List.map_nil, String.join_nil, String.append_empty]
  | cons y ys ih =>
    rw [String.intercalate_cons_cons, ih, List.map_cons, String.join_cons, String.append_assoc,
      String.append_assoc]

/-- The octets of a text are written as the text. -/
theorem quoteBytes_toUTF8 (s : String) : quoteBytes s.toUTF8 = quote s := by
  rw [quoteBytes, pushFrom_encoded _ 0 _ s.toList (by rw [List.drop_zero, Utf8.data_toUTF8]),
    quote_eq, String.push_eq_append]
  rfl

/-! None of the literals holds a raw newline: it is always escaped. -/

theorem newline_not_mem_hex4 (n : Nat) : '\n' ∉ (hex4 n).toList := by
  have hd : ∀ k < 16, Nat.digitChar k ≠ '\n' := by decide
  simp only [hex4, String.toList_ofList, List.mem_cons, List.not_mem_nil, or_false, not_or]
  exact ⟨(hd _ (Nat.mod_lt _ (by omega))).symm, (hd _ (Nat.mod_lt _ (by omega))).symm,
    (hd _ (Nat.mod_lt _ (by omega))).symm, (hd _ (Nat.mod_lt _ (by omega))).symm⟩

theorem newline_not_mem_pushChar (c : Char) : '\n' ∉ (pushChar "" c).toList := by
  unfold pushChar
  split
  case h_11 _ _ hnl _ _ _ _ _ _ _ =>
    split
    · simp [newline_not_mem_hex4]
    · simpa using fun h => hnl h.symm
  all_goals simp [newline_not_mem_hex4]

theorem newline_not_mem_pushChar_iff (acc : String) (c : Char) :
    '\n' ∉ (pushChar acc c).toList ↔ '\n' ∉ acc.toList := by
  rw [pushChar_eq_append, String.toList_append, List.mem_append]
  simp only [newline_not_mem_pushChar c, or_false]

theorem newline_not_mem_quote (s : String) : '\n' ∉ (quote s).toList := by
  rw [quote_eq]
  simp [String.toList_join, List.mem_flatMap, newline_not_mem_pushChar]

theorem newline_not_mem_pushFrom (b : ByteArray) (i : Nat) (acc : String)
    (h : '\n' ∉ acc.toList) : '\n' ∉ (pushFrom b i acc).toList := by
  fun_induction pushFrom b i acc with
  | case1 i acc _ c k _ ih => exact ih ((newline_not_mem_pushChar_iff acc c).mpr h)
  | case2 i acc _ _ ih => exact ih (by simpa using h)
  | case3 => exact h

theorem newline_not_mem_quoteBytes (b : ByteArray) : '\n' ∉ (quoteBytes b).toList := by
  rw [quoteBytes, String.toList_push, List.mem_append, not_or]
  exact ⟨newline_not_mem_pushFrom b 0 _ (by decide), by simp⟩

/-- An object of members whose literals hold no raw newline holds none. -/
theorem newline_not_mem_object (members : List (String × String))
    (h : ∀ m ∈ members, '\n' ∉ m.2.toList) : '\n' ∉ (object members).toList := by
  rw [object]
  cases members with
  | nil => simp
  | cons m ms =>
    rw [List.map_cons, intercalate_comma]
    simp only [String.toList_append, String.toList_join, List.mem_append, List.mem_flatMap,
      List.mem_map, not_or, not_exists, not_and]
    refine ⟨⟨by decide, ⟨⟨newline_not_mem_quote _, by decide⟩, h m List.mem_cons_self⟩, ?_⟩,
      by decide⟩
    rintro x ⟨_, ⟨m', hm', rfl⟩, rfl⟩
    simp only [String.toList_append, List.mem_append, not_or]
    exact ⟨by decide, ⟨newline_not_mem_quote _, by decide⟩, h m' (List.mem_cons_of_mem _ hm')⟩

end Json

namespace Document.Json

theorem skip_cons {c : Char} (h : isSpace c = false) (cs : List Char) : skip (c :: cs) = c :: cs := by
  simp [skip, h]

theorem hexValue_digitChar : ∀ k < 16, hexValue (Nat.digitChar k) = some k := by
  decide

theorem digitChar_ascii : ∀ k < 16, (Nat.digitChar k).toNat < 128 := by
  decide

/-- The four digits the writer puts in a \\u escape read back as the value they stand for. -/
theorem hex4_written (n : Nat) (rest : List Char) :
    hex4 ((LiveTail.Json.hex4 n).toList ++ rest) = .ok (n % 65536, rest) := by
  have hd : ∀ k, hexValue (Nat.digitChar (n / k % 16)) = some (n / k % 16) := fun k =>
    hexValue_digitChar _ (Nat.mod_lt _ (by omega))
  simp only [LiveTail.Json.hex4, String.toList_ofList, hex4, List.cons_append, List.nil_append,
    List.take_succ_cons, List.take_zero, List.mapM_cons, hd, List.mapM_nil]
  simp
  omega

/-- Characters read back from their value outside the surrogates. -/
theorem unitChar_toNat (c : Char) : unitChar c.toNat = c := by
  have hv := Utf8.toNat_char_valid c
  rw [unitChar, if_neg (by omega), Char.ofNat_toNat]

/-- A \\u escape of a character below the surrogates reads as that character. -/
theorem string_unicodeEscape (fuel : Nat) (acc : List Char) {c : Char} (hc : c.toNat < 0xD800)
    (rest : List Char) :
    string (fuel + 1) acc
        (Utf8.octetChars ("\\u" ++ LiveTail.Json.hex4 c.toNat).toUTF8 ++ rest) =
      string fuel (c :: acc) rest := by
  have hdigits : ∀ d ∈ (LiveTail.Json.hex4 c.toNat).toList, d.toNat < 128 := by
    simp only [LiveTail.Json.hex4, String.toList_ofList, List.mem_cons, List.not_mem_nil,
      or_false]
    rintro d (rfl | rfl | rfl | rfl) <;> exact digitChar_ascii _ (Nat.mod_lt _ (by omega))
  rw [Utf8.octetChars_append, Utf8.octetChars_ascii (by simp), Utf8.octetChars_ascii hdigits]
  show string (fuel + 1) acc ('\\' :: 'u' :: ((LiveTail.Json.hex4 c.toNat).toList ++ rest)) = _
  rw [string.eq_13 _ _ _ _ (by decide) (by decide) (by decide) (by decide) (by decide) (by decide)
    (by decide) (by decide), if_neg (by simp), hex4_written]
  dsimp only
  rw [if_neg (by omega), Nat.mod_eq_of_lt (by omega), unitChar_toNat]

/-- A character the writer copies as it is reads as itself. -/
theorem string_plain (fuel : Nat) (acc : List Char) {c : Char} (h1 : c ≠ '"') (h2 : c ≠ '\\')
    (h3 : 0x20 ≤ c.toNat) (rest : List Char) :
    string (fuel + 1) acc (Utf8.charOctets c ++ rest) = string fuel (c :: acc) rest := by
  obtain ⟨c0, tl, hc, h0⟩ := Utf8.charOctets_cons c
  have hfront := Utf8.frontChar?_charOctets c rest
  have hlen : tl.length = (String.utf8EncodeChar c).length - 1 := by
    have := Utf8.length_charOctets c
    rw [hc, List.length_cons] at this
    omega
  -- the first octet is neither a quote, a backslash nor a control character
  have hne : c0 ≠ '"' ∧ c0 ≠ '\\' ∧ ¬ c0.toNat < 32 := by
    rcases h0 with rfl | h0
    · exact ⟨h1, h2, by omega⟩
    · refine ⟨?_, ?_, by omega⟩ <;> (rintro rfl; revert h0; decide)
  rw [hc, List.cons_append] at hfront ⊢
  rw [string.eq_14 _ _ _ _ hne.1 hne.2.1, if_neg hne.2.2, hfront]
  dsimp only
  rw [← hlen, List.drop_left]

/-- The escaped form of any character reads back as that character. -/
theorem string_pushChar (fuel : Nat) (acc : List Char) (c : Char) (rest : List Char) :
    string (fuel + 1) acc (Utf8.octetChars (LiveTail.Json.pushChar "" c).toUTF8 ++ rest) =
      string fuel (c :: acc) rest := by
  unfold LiveTail.Json.pushChar
  split
  -- the five two-character escapes
  case h_1 | h_2 | h_3 | h_4 | h_5 =>
    rw [String.empty_append, Utf8.octetChars_ascii (by simp)]
    rfl
  -- markup characters and the line separators
  case h_6 | h_7 | h_8 | h_9 | h_10 =>
    rw [String.empty_append]
    exact string_unicodeEscape fuel acc (by decide) rest
  case h_11 hquote hbackslash _ _ _ _ _ _ _ _ =>
    split
    · rw [String.empty_append]
      exact string_unicodeEscape fuel acc (by omega) rest
    · rw [Utf8.octetChars_toUTF8, String.toList_push, String.toList_empty, List.nil_append,
        List.flatMap_singleton]
      exact string_plain fuel acc hquote hbackslash (by omega) rest

/-- A text has at least as many octets as characters. -/
theorem length_le_octetChars_join (cs : List Char) :
    cs.length ≤ (Utf8.octetChars (String.join (cs.map (LiveTail.Json.pushChar ""))).toUTF8).length := by
  induction cs with
  | nil => simp
  | cons c cs ih =>
    rw [List.map_cons, String.join_cons, Utf8.octetChars_append, List.length_append,
      List.length_cons]
    have := List.length_pos_iff.mpr (Utf8.octetChars_ne_nil (LiveTail.Json.pushChar_ne_empty c))
    omega

/-- The escaped characters of a text, then a quote, read as that text, given a character of
fuel more than there are characters. -/
theorem string_escaped (cs : List Char) (fuel : Nat) (acc rest : List Char)
    (h : cs.length < fuel) :
    string fuel acc
        (Utf8.octetChars (String.join (cs.map (LiveTail.Json.pushChar ""))).toUTF8 ++ '"' :: rest) =
      .ok (String.ofList (acc.reverse ++ cs), rest) := by
  obtain ⟨f, rfl⟩ : ∃ f, fuel = f + 1 := ⟨fuel - 1, by omega⟩
  induction cs generalizing f acc with
  | nil =>
    rw [List.map_nil, String.join_nil, Utf8.octetChars_ascii (by simp), List.append_nil]
    exact string.eq_3 _ _ _
  | cons c cs ih =>
    rw [List.map_cons, String.join_cons, Utf8.octetChars_append, List.append_assoc,
      string_pushChar]
    obtain ⟨g, rfl⟩ : ∃ g, f = g + 1 := ⟨f - 1, by simp at h; omega⟩
    rw [ih (c :: acc) g (by simp at h; omega)]
    simp

theorem value_string (depth fuel : Nat) (r : List Char) :
    value depth (fuel + 1) ('"' :: r) =
      (string (r.length + 1) [] r).map fun (s, r) => (.string s, r) := by
  rw [value, skip_cons (by decide)]
  rfl

/-- The text `t` reads as the value `v`, at any depth and whatever follows it. -/
def Reads (t : String) (v : Tree) : Prop :=
  ∀ depth fuel rest, value depth (fuel + 1) (Utf8.octetChars t.toUTF8 ++ rest) = .ok (v, rest)

/-- Every quoted text reads back as itself. -/
theorem reads_quote (s : String) : Reads (LiveTail.Json.quote s) (.string s) := by
  intro depth fuel rest
  have hlen := length_le_octetChars_join s.toList
  rw [LiveTail.Json.quote_eq, Utf8.octetChars_append, Utf8.octetChars_append,
    Utf8.octetChars_ascii (s := "\"") (by simp), List.append_assoc, List.append_assoc]
  show value depth (fuel + 1) ('"' :: (_ ++ '"' :: rest)) = _
  rw [value_string, string_escaped s.toList _ [] rest (by
    simp only [List.length_append, List.length_cons]; omega), List.reverse_nil, List.nil_append,
    String.ofList_toList]
  rfl

theorem value_object (depth fuel : Nat) (r : List Char) (h : depth < maxDepth) :
    value depth (fuel + 1) ('{' :: r) = object (depth + 1) fuel [] r true := by
  rw [value, skip_cons (by decide)]
  exact if_pos h

/-- A quoted text, then more, starts with a quote. -/
theorem octetChars_quote (k : String) (r : List Char) :
    Utf8.octetChars (LiveTail.Json.quote k).toUTF8 ++ r =
      '"' :: (Utf8.octetChars (String.join (k.toList.map (LiveTail.Json.pushChar ""))).toUTF8 ++
        '"' :: r) := by
  rw [LiveTail.Json.quote_eq, Utf8.octetChars_append, Utf8.octetChars_append,
    Utf8.octetChars_ascii (s := "\"") (by simp), List.append_assoc, List.append_assoc]
  rfl

/-- A key's text after its opening quote reads as the key. -/
theorem string_key (k : String) (r : List Char) :
    string ((Utf8.octetChars (String.join (k.toList.map (LiveTail.Json.pushChar ""))).toUTF8 ++
        '"' :: r).length + 1) [] (Utf8.octetChars
          (String.join (k.toList.map (LiveTail.Json.pushChar ""))).toUTF8 ++ '"' :: r) =
      .ok (k, r) := by
  have hlen := length_le_octetChars_join k.toList
  rw [string_escaped k.toList _ [] r (by simp only [List.length_append, List.length_cons]; omega),
    List.reverse_nil, List.nil_append, String.ofList_toList]

/-- The last member of an object, then its closing brace. -/
theorem object_last (depth fuel : Nat) (acc : List (String × Tree)) (first : Bool) (k t : String)
    (v : Tree) (hv : Reads t v) (rest : List Char) :
    object depth (fuel + 2) acc
        (Utf8.octetChars (LiveTail.Json.quote k ++ ":" ++ t).toUTF8 ++ '}' :: rest) first =
      .ok (.object ((k, v) :: acc).reverse, rest) := by
  rw [Utf8.octetChars_append, Utf8.octetChars_append, Utf8.octetChars_ascii (s := ":") (by simp),
    List.append_assoc, List.append_assoc, octetChars_quote, object, skip_cons (by decide),
    show ":".toList = [':'] from rfl, List.singleton_append]
  simp only [string_key, bind, Except.bind, skip_cons (c := ':') (by decide), hv depth fuel,
    skip_cons (c := '}') (by decide)]

/-- A member of an object, then a comma and the next key. -/
theorem object_next (depth fuel : Nat) (acc : List (String × Tree)) (first : Bool) (k t : String)
    (v : Tree) (hv : Reads t v) (k' : String) (r : List Char) :
    object depth (fuel + 2) acc (Utf8.octetChars (LiveTail.Json.quote k ++ ":" ++ t).toUTF8 ++
        ',' :: (Utf8.octetChars (LiveTail.Json.quote k').toUTF8 ++ r)) first =
      object depth (fuel + 1) ((k, v) :: acc) (Utf8.octetChars (LiveTail.Json.quote k').toUTF8 ++ r)
        false := by
  rw [Utf8.octetChars_append, Utf8.octetChars_append, Utf8.octetChars_ascii (s := ":") (by simp),
    List.append_assoc, List.append_assoc, octetChars_quote k, octetChars_quote k', object,
    skip_cons (by decide), show ":".toList = [':'] from rfl, List.singleton_append]
  simp only [string_key, bind, Except.bind, skip_cons (c := ':') (by decide), hv depth fuel,
    skip_cons (c := ',') (by decide), skip_cons (c := '"') (by decide)]

/-- The literal of a member: its key quoted, a colon, its value's literal. -/
def memberText (m : String × String × Tree) : String := LiveTail.Json.quote m.1 ++ ":" ++ m.2.1

/-- Members after the first, each after a comma, then the closing brace, read as the members
in order. -/
theorem object_members (depth : Nat) (ms : List (String × String × Tree))
    (hms : ∀ m ∈ ms, Reads m.2.1 m.2.2) :
    ∀ (m : String × String × Tree), Reads m.2.1 m.2.2 →
      ∀ (acc : List (String × Tree)) (fuel : Nat) (first : Bool) (rest : List Char),
      ms.length < fuel →
      object depth (fuel + 1) acc (Utf8.octetChars (memberText m ++
          String.join (ms.map fun m => "," ++ memberText m)).toUTF8 ++ '}' :: rest) first =
        .ok (.object (acc.reverse ++ (m :: ms).map fun m => (m.1, m.2.2)), rest) := by
  induction ms with
  | nil =>
    intro m hm acc fuel first rest hfuel
    obtain ⟨f, rfl⟩ : ∃ f, fuel = f + 1 := ⟨fuel - 1, by simp at hfuel; omega⟩
    rw [List.map_nil, String.join_nil, String.append_empty, memberText, object_last _ _ _ _ _ _ _ hm]
    simp
  | cons m' ms ih =>
    intro m hm acc fuel first rest hfuel
    obtain ⟨f, rfl⟩ : ∃ f, fuel = f + 1 := ⟨fuel - 1, by simp at hfuel; omega⟩
    have hm' := hms m' List.mem_cons_self
    -- the next member starts with its quoted key, which `object_next` reads up to
    have hsplit : Utf8.octetChars (memberText m ++ String.join ((m' :: ms).map fun m =>
        "," ++ memberText m)).toUTF8 ++ '}' :: rest =
        Utf8.octetChars (memberText m).toUTF8 ++ ',' :: (Utf8.octetChars
          (LiveTail.Json.quote m'.1).toUTF8 ++ (Utf8.octetChars (":" ++ m'.2.1 ++
            String.join (ms.map fun m => "," ++ memberText m)).toUTF8 ++ '}' :: rest)) := by
      simp only [List.map_cons, String.join_cons, memberText, Utf8.octetChars_append,
        List.append_assoc, Utf8.octetChars_ascii (s := ",") (by simp)]
      rfl
    have hback : Utf8.octetChars (LiveTail.Json.quote m'.1).toUTF8 ++
        (Utf8.octetChars (":" ++ m'.2.1 ++ String.join (ms.map fun m => "," ++ memberText m)).toUTF8 ++
          '}' :: rest) =
        Utf8.octetChars (memberText m' ++ String.join (ms.map fun m => "," ++ memberText m)).toUTF8 ++
          '}' :: rest := by
      simp only [memberText, Utf8.octetChars_append, List.append_assoc]
    rw [hsplit, memberText, object_next _ _ _ _ _ _ _ hm, hback,
      ih (fun m hm => hms m (List.mem_cons_of_mem _ hm)) m' hm' _ f false rest
        (by simp at hfuel; omega)]
    simp

theorem object_text (m : String × String × Tree) (ms : List (String × String × Tree)) :
    LiveTail.Json.object ((m :: ms).map fun m => (m.1, m.2.1)) =
      "\x7b" ++ (memberText m ++ String.join (ms.map fun m => "," ++ memberText m)) ++ "\x7d" := by
  rw [LiveTail.Json.object, List.map_map, List.map_cons, LiveTail.Json.intercalate_comma,
    List.map_map]
  rfl

theorem length_le_octetChars_commas (ms : List (String × String × Tree)) :
    ms.length ≤ (Utf8.octetChars (String.join (ms.map fun m => "," ++ memberText m)).toUTF8).length := by
  induction ms with
  | nil => simp
  | cons m ms ih =>
    rw [List.map_cons, String.join_cons, Utf8.octetChars_append, Utf8.octetChars_append,
      Utf8.octetChars_ascii (s := ",") (by simp)]
    simp only [List.length_append, List.length_cons]
    change _ ≤ 1 + _ + _
    omega

/-- An object whose members' literals read as values reads as those members, in order. -/
theorem reads_object (m : String × String × Tree) (ms : List (String × String × Tree))
    (hm : Reads m.2.1 m.2.2) (hms : ∀ m ∈ ms, Reads m.2.1 m.2.2) (depth : Nat)
    (hdepth : depth < maxDepth) (fuel : Nat) (hfuel : ms.length < fuel) (rest : List Char) :
    value depth (fuel + 2)
        (Utf8.octetChars (LiveTail.Json.object ((m :: ms).map fun m => (m.1, m.2.1))).toUTF8 ++
          rest) =
      .ok (.object ((m :: ms).map fun m => (m.1, m.2.2)), rest) := by
  rw [object_text, Utf8.octetChars_append, Utf8.octetChars_append,
    Utf8.octetChars_ascii (s := "\x7b") (by simp), Utf8.octetChars_ascii (s := "\x7d") (by simp),
    List.append_assoc, List.append_assoc]
  show value depth (fuel + 1 + 1) ('{' :: (_ ++ '}' :: rest)) = _
  rw [value_object _ _ _ hdepth, object_members (depth + 1) ms hms m hm [] fuel true rest hfuel]
  rfl

/-- A whole text that is such an object parses as its members, in order. -/
theorem parse_object (m : String × String × Tree) (ms : List (String × String × Tree))
    (hm : Reads m.2.1 m.2.2) (hms : ∀ m ∈ ms, Reads m.2.1 m.2.2) :
    parse (Utf8.octetChars (LiveTail.Json.object ((m :: ms).map fun m => (m.1, m.2.1))).toUTF8) =
      .ok (.object ((m :: ms).map fun m => (m.1, m.2.2))) := by
  have hlen : ms.length < 2 * (Utf8.octetChars
      (LiveTail.Json.object ((m :: ms).map fun m => (m.1, m.2.1))).toUTF8).length := by
    have := length_le_octetChars_commas ms
    rw [object_text, Utf8.octetChars_append, Utf8.octetChars_append, Utf8.octetChars_append,
      Utf8.octetChars_ascii (s := "\x7b") (by simp)]
    simp only [List.length_append]
    have : "\x7b".toList.length = 1 := rfl
    omega
  have hread := reads_object m ms hm hms 0 (by decide) _ hlen []
  rw [List.append_nil] at hread
  rw [parse, hread]
  rfl

end Document.Json
end LiveTail
