import DeviceGraph.Proofs.Search.Request
import DeviceGraph.Proofs.Text.Pieces
import DeviceGraph.Search.Wire

/-!
# A written filter is read back

The text of a filter gives back its hops, its field and its value text, with
every `%3A` of the value text turned into a colon. A comma in the value text
leaves a piece without a colon, which no filter is written as.
-/

set_option autoImplicit false

namespace DeviceGraph.Search

/-! ## Colons in a value -/

theorem colon_not_mem_escapeColons (s : List Char) : ':' ∉ escapeColons s := by
  intro h
  obtain ⟨c, _, hc⟩ := List.mem_flatMap.mp h
  by_cases hcolon : c = ':'
  · simp [hcolon] at hc
  · rw [if_neg hcolon, List.mem_singleton] at hc
    exact hcolon hc.symm

theorem comma_mem_escapeColons_iff (s : List Char) : ',' ∈ escapeColons s ↔ ',' ∈ s := by
  induction s with
  | nil => rfl
  | cons c s ih =>
    have hcons : escapeColons (c :: s) = (if c = ':' then ['%', '3', 'A'] else [c]) ++
        escapeColons s := rfl
    rw [hcons, List.mem_append, ih, List.mem_cons]
    by_cases hcolon : c = ':' <;> simp [hcolon]

theorem escapeColons_eq_cons {s tail : List Char} {c : Char} (hc : c ≠ '%')
    (h : escapeColons s = c :: tail) : ∃ rest, s = c :: rest ∧ tail = escapeColons rest := by
  cases s with
  | nil => cases h
  | cons d rest =>
    have hcons : escapeColons (d :: rest) = (if d = ':' then ['%', '3', 'A'] else [d]) ++
        escapeColons rest := rfl
    rw [hcons] at h
    by_cases hd : d = ':'
    · rw [if_pos hd] at h
      exact absurd (List.cons.inj h).1.symm hc
    · rw [if_neg hd] at h
      obtain ⟨rfl, rfl⟩ := List.cons.inj h
      exact ⟨rest, rfl, rfl⟩

theorem restoreColons_cons_of_not_code {c : Char} {s : List Char}
    (h : ∀ rest, c :: s ≠ '%' :: '3' :: 'A' :: rest) :
    restoreColons (c :: s) = c :: restoreColons s := by
  rw [restoreColons.eq_def]
  split
  · next rest heq => exact absurd heq (h rest)
  · next heq =>
    cases heq
    rfl
  · next heq => cases heq

/-- Escaping makes no code across its seams, so restoring undoes it up to the
codes that were there before. -/
theorem restoreColons_escapeColons (s : List Char) :
    restoreColons (escapeColons s) = restoreColons s := by
  induction s using restoreColons.induct with
  | case1 rest ih =>
    rw [show escapeColons ('%' :: '3' :: 'A' :: rest) = '%' :: '3' :: 'A' :: escapeColons rest
      from rfl, restoreColons, ih, restoreColons]
  | case2 c rest hne ih =>
    have hcode : ∀ tail, c :: rest ≠ '%' :: '3' :: 'A' :: tail := by
      intro tail heq
      obtain ⟨hc, hr⟩ := List.cons.inj heq
      exact hne tail hc hr
    rw [restoreColons_cons_of_not_code hcode]
    by_cases hcolon : c = ':'
    · subst hcolon
      rw [show escapeColons (':' :: rest) = '%' :: '3' :: 'A' :: escapeColons rest from rfl,
        restoreColons, ih]
    · have hcons : escapeColons (c :: rest) = c :: escapeColons rest := by
        simp [escapeColons, hcolon]
      rw [hcons, restoreColons_cons_of_not_code, ih]
      -- a code at this character uses two more that escaping left alone, so it was there before
      intro tail heq
      obtain ⟨hc, hr⟩ := List.cons.inj heq
      obtain ⟨rest₁, rfl, hr₁⟩ := escapeColons_eq_cons (by decide) hr
      obtain ⟨rest₂, rfl, _⟩ := escapeColons_eq_cons (by decide) hr₁.symm
      exact hcode rest₂ (by rw [hc])
  | case3 => rfl

theorem restoreColons_ne_nil {s : List Char} (h : s ≠ []) : restoreColons s ≠ [] := by
  fun_cases restoreColons s with
  | case1 => simp
  | case2 => simp
  | case3 => exact absurd rfl h

theorem restoreColons_of_no_code {s : List Char} (h : ¬ ['%', '3', 'A'] <:+: s) :
    restoreColons s = s := by
  induction s with
  | nil => rfl
  | cons c s ih =>
    rw [restoreColons_cons_of_not_code, ih (fun hs => h (List.infix_cons hs))]
    intro rest heq
    exact h ⟨[], rest, by simp [heq]⟩

/-! ## Value texts -/

theorem double_text_ne_empty (x : Double) : x.text ≠ "" := by
  intro h
  have hl := congrArg String.toList h
  simp only [Double.text, String.toList_ofList] at hl
  split at hl
  · simp at hl
  · simp at hl

theorem numeral_text_ne_empty (n : Numeral) : n.text ≠ "" := by
  cases n with
  | whole n =>
    intro h
    have hl := congrArg String.toList h
    simp [Numeral.text, decimalText, Nat.toDigits_ne_nil] at hl
  | double x => exact double_text_ne_empty x

namespace Filter

theorem valueText_ne_empty {f : Filter} (h : WritableValue f.value) : f.valueText ≠ "" := by
  unfold valueText
  cases hv : f.value with
  | string s =>
    rw [hv] at h
    exact h
  | number n =>
    have hn : (Json.number n).text = n.text := by simp [Json.text, Json.chars]
    show (Json.number n).text ≠ ""
    rw [hn]
    exact numeral_text_ne_empty n
  | bool b => cases b <;> decide
  | null =>
    rw [hv] at h
    exact h.elim
  | array items =>
    rw [hv] at h
    exact h.elim
  | object members =>
    rw [hv] at h
    exact h.elim

theorem writableValue_readValue (op : Operator) {text : String} (h : text ≠ "") :
    WritableValue (readValue op text) := by
  unfold readValue
  split
  · split
    · trivial
    · trivial
    · exact h
  · exact h

def restoredText (f : Filter) : String := String.ofList (restoreColons f.valueText.toList)

def reread (op : Operator) (f : Filter) : Filter :=
  { f with value := readValue op f.restoredText }

theorem writable_reread (op : Operator) {f : Filter} (h : f.Writable) :
    (f.reread op).Writable := by
  refine ⟨h.field, writableValue_readValue op ?_, h.relations, h.directions⟩
  intro he
  have hl := congrArg String.toList he
  rw [restoredText, String.toList_ofList] at hl
  refine restoreColons_ne_nil (fun hn => valueText_ne_empty h.value ?_) hl
  rw [← String.toList_inj, hn]
  rfl

/-! ## The parts of a filter -/

def read? (op : Operator) (text : String) : Option Filter := ofParts? op (Text.split ':' text)

def hopTexts (hops : List Hop) : List String :=
  hops.flatMap fun hop => [hop.relation, hop.direction.text]

theorem plain_direction (direction : Direction) : PlainName direction.text := by
  cases direction <;> exact ⟨by decide, by decide, by decide⟩

theorem plain_of_mem_parts {f : Filter} (h : f.Writable) {part : String}
    (hm : part ∈ hopTexts f.hops ++ [f.field]) : PlainName part := by
  rcases List.mem_append.mp hm with hm | hm
  · obtain ⟨hop, hh, hm⟩ := List.mem_flatMap.mp hm
    rcases List.mem_cons.mp hm with rfl | hm
    · exact h.relations hop hh
    · rw [List.mem_singleton.mp hm]
      exact plain_direction hop.direction
  · rw [List.mem_singleton.mp hm]
    exact h.field

theorem hopDirection?_text {direction : Direction} (h : direction ≠ .both) :
    hopDirection? direction.text = some direction := by
  cases direction with
  | incoming => rfl
  | outgoing => rfl
  | both => exact absurd rfl h

theorem ofParts?_hopTexts (op : Operator) (hops : List Hop) (field value : String)
    (h : ∀ hop ∈ hops, hop.direction ≠ .both) :
    ofParts? op (hopTexts hops ++ [field, value]) =
      some ⟨field, readValue op (String.ofList (restoreColons value.toList)), hops⟩ := by
  induction hops with
  | nil => rfl
  | cons hop hops ih =>
    have hparts : hopTexts (hop :: hops) ++ [field, value] =
        hop.relation :: hop.direction.text :: (hopTexts hops ++ [field, value]) := rfl
    obtain ⟨part, rest, hp⟩ : ∃ part rest, hopTexts hops ++ [field, value] = part :: rest :=
      List.exists_cons_of_ne_nil (by simp)
    have hrest := ih fun other ho => h other (List.mem_cons_of_mem hop ho)
    rw [hp] at hrest
    rw [hparts, hp, ofParts?, hopDirection?_text (h hop List.mem_cons_self), hrest]
    · rfl
    · simp

theorem wire_eq (f : Filter) : f.wire = Text.join ":" ((hopTexts f.hops ++ [f.field]) ++
    [String.ofList (escapeColons f.valueText.toList)]) := by
  rw [List.append_assoc]
  rfl

theorem split_wire {f : Filter} (h : f.Writable) : Text.split ':' f.wire =
    hopTexts f.hops ++ [f.field, String.ofList (escapeColons f.valueText.toList)] := by
  have hparts : ∀ part ∈ (hopTexts f.hops ++ [f.field]) ++
      [String.ofList (escapeColons f.valueText.toList)], ':' ∉ part.toList := by
    intro part hm
    rcases List.mem_append.mp hm with hm | hm
    · exact (plain_of_mem_parts h hm).2.1
    · rw [List.mem_singleton.mp hm, String.toList_ofList]
      exact colon_not_mem_escapeColons _
  rw [wire_eq, Text.split_join rfl (by simp), Text.flatMap_split_of_not_mem hparts,
    List.append_assoc, List.singleton_append]

/-- The colons of a written filter are those behind its hops and its field. -/
theorem count_colon_wire {f : Filter} (h : f.Writable) :
    f.wire.toList.count ':' = 2 * f.hops.length + 1 := by
  have hlen := Text.length_split ':' f.wire
  have hhops : (hopTexts f.hops).length = 2 * f.hops.length := by
    simp [hopTexts, List.length_flatMap, Nat.mul_comm]
  rw [split_wire h, List.length_append, hhops] at hlen
  exact (Nat.succ.inj hlen).symm

theorem read?_wire (op : Operator) {f : Filter} (h : f.Writable) :
    read? op f.wire = some (f.reread op) := by
  rw [read?, split_wire h, ofParts?_hopTexts op f.hops _ _ h.directions, String.toList_ofList,
    restoreColons_escapeColons]
  rfl

theorem ofWire_eq_ok_iff (op : Operator) (text : String) (f : Filter) :
    ofWire op text = .ok f ↔ read? op text = some f := by
  rw [ofWire, ← read?]
  cases read? op text <;> simp

/-! ## Commas in a value -/

theorem comma_not_mem_wire {f : Filter} (h : f.Writable) (hc : ',' ∉ f.valueText.toList) :
    ',' ∉ f.wire.toList := by
  intro hm
  rw [wire_eq] at hm
  rcases Text.mem_join hm with hm | ⟨part, hp, hm⟩
  · exact absurd hm (by decide)
  · rcases List.mem_append.mp hp with hp | hp
    · exact (plain_of_mem_parts h hp).2.2 hm
    · rw [List.mem_singleton.mp hp, String.toList_ofList, comma_mem_escapeColons_iff] at hm
      exact hc hm

theorem read?_of_no_colon (op : Operator) {text : String} (h : ':' ∉ text.toList) :
    read? op text = none := by
  rw [read?, Text.split_of_not_mem h]
  rfl

/-- A comma in the value cuts off a piece that holds no colon, since the colons
of the value are escaped. -/
theorem exists_unreadable_piece (op : Operator) {f : Filter} (h : ',' ∈ f.valueText.toList) :
    ∃ text ∈ Text.split ',' f.wire, read? op text = none := by
  obtain ⟨a, b, hab⟩ := List.append_of_mem ((comma_mem_escapeColons_iff _).mpr h)
  have hwire : f.wire.toList =
      ((Text.join ":" (hopTexts f.hops ++ [f.field])).toList ++ ':' :: a) ++ ',' :: b := by
    rw [wire_eq, hab, Text.join_concat _ _ (by simp)]
    simp
  obtain ⟨piece, rest, hp⟩ := List.exists_cons_of_ne_nil (Text.pieces_ne_nil ',' b)
  refine ⟨String.ofList piece, ?_, read?_of_no_colon op ?_⟩
  · rw [Text.split, hwire, Text.pieces_append_mark, hp]
    exact List.mem_map_of_mem (by simp)
  · rw [String.toList_ofList]
    intro hm
    apply colon_not_mem_escapeColons f.valueText.toList
    rw [hab]
    have hb : ':' ∈ b := Text.mem_of_mem_pieces (hp ▸ List.mem_cons_self) hm
    exact List.mem_append_right a (List.mem_cons_of_mem _ hb)

end Filter

end DeviceGraph.Search
