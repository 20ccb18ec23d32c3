import ClusterFabric.Lib.Codec

/-! # Exact codecs

A writer and a reader of the same values that are inverse to each other: what is
written of an admissible value is read back as that value, and whatever is read is
an admissible value whose writing gives the bytes that were consumed. So no value
has two encodings. The relation composes field by field along the two `do` blocks
of a record; what is known of the record so far is carried along, since the reader
builds it only at its end.
-/

namespace Lib.Codec

variable {input : List UInt8} {wn : Nat → Write} {rest : List UInt8} {N : Nat → Prop}
  {count : Nat}

/-! ## What a write spells -/

/-- The write appends `bytes` to an output that stays within the limit, and fails
otherwise. -/
structure Spells (limit : Nat) (w : Write) (bytes : List UInt8) : Prop where
  failed : ∀ out, out.failed = true → (w.output out).failed = true
  fits : ∀ out, out.failed = false → out.reversed.length + bytes.length ≤ limit →
    w.output out = { reversed := bytes.reverseAux out.reversed }
  overflows : ∀ out, out.reversed.length ≤ limit → limit < out.reversed.length + bytes.length →
    (w.output out).failed = true

section Spells

variable {limit : Nat} {w : Write} {bytes : List UInt8}

theorem spells_pure : Spells limit (pure ()) [] where
  failed _ h := h
  fits out h _ := by
    rw [output_pure, List.reverseAux_nil, ← h]
  overflows out hle hlt := by
    rw [List.length_nil] at hlt
    omega

theorem spells_emit (bytes : List UInt8) : Spells limit (emit limit bytes) bytes := by
  have houtput : ∀ out, (emit limit bytes).output out =
      if out.failed then out
      else if limit < out.reversed.length + bytes.length then { out with failed := true }
      else { out with reversed := bytes.reverseAux out.reversed } := fun _ => rfl
  refine ⟨fun out h => ?_, fun out h hle => ?_, fun out hle hlt => ?_⟩
  · rw [houtput, if_pos h, h]
  · rw [houtput, h, if_neg Bool.false_ne_true, if_neg (Nat.not_lt.mpr hle)]
  · rw [houtput]
    split_ifs with hfailed
    · exact hfailed
    · rfl

theorem Spells.bind {k : Unit → Write} {more : List UInt8} (hw : Spells limit w bytes)
    (hk : Spells limit (k ()) more) : Spells limit (w >>= k) (bytes ++ more) := by
  refine ⟨fun out h => ?_, fun out h hle => ?_, fun out hle hlt => ?_⟩
  · rw [output_bind]
    exact hk.failed _ (hw.failed out h)
  · rw [List.length_append] at hle
    rw [output_bind, hw.fits out h (by omega), hk.fits _ rfl]
    · rw [List.reverseAux_eq, List.reverseAux_eq, List.reverseAux_eq, List.reverse_append,
        List.append_assoc]
    · rw [List.reverseAux_eq, List.length_append, List.length_reverse]
      omega
  · rw [List.length_append] at hlt
    rw [output_bind]
    by_cases hfailed : out.failed = true
    · exact hk.failed _ (hw.failed out hfailed)
    by_cases hfirst : out.reversed.length + bytes.length ≤ limit
    · rw [hw.fits out (Bool.eq_false_of_not_eq_true hfailed) hfirst]
      have hlength : (bytes.reverseAux out.reversed).length =
          out.reversed.length + bytes.length := by
        rw [List.reverseAux_eq, List.length_append, List.length_reverse, Nat.add_comm]
      exact hk.overflows _ (by rw [hlength]; exact hfirst) (by rw [hlength]; omega)
    · exact hk.failed _ (hw.overflows out hle (by omega))

theorem spells_forM {α : Type} {w : α → Write} {spelling : α → List UInt8} {xs : List α}
    (h : ∀ x ∈ xs, Spells limit (w x) (spelling x)) :
    Spells limit (xs.forM w) (xs.flatMap spelling) := by
  induction xs with
  | nil => exact spells_pure
  | cons x xs ih =>
    rw [List.flatMap_cons]
    exact (h x List.mem_cons_self).bind (ih fun y hy => h y (List.mem_cons_of_mem x hy))

/-- What is written to an empty output. -/
theorem Spells.output_empty (hw : Spells limit w bytes) :
    (bytes.length ≤ limit → (w.output {}).failed = false ∧ (w.output {}).data = bytes) ∧
      (limit < bytes.length → (w.output {}).failed = true) := by
  constructor
  · intro hle
    rw [hw.fits {} rfl (by rw [List.length_nil]; omega)]
    exact ⟨rfl, by rw [Output.data, List.reverseAux_eq, List.append_nil, List.reverse_reverse]⟩
  · intro hlt
    exact hw.overflows {} (Nat.zero_le _) (by rw [List.length_nil]; omega)

/-- A write spells one text, if it is within the limit. -/
theorem Spells.unique {other : List UInt8} (hw : Spells limit w bytes)
    (hother : Spells limit w other) (hle : bytes.length ≤ limit) : other = bytes := by
  obtain ⟨hok, hdata⟩ := hw.output_empty.1 hle
  by_cases hfits : other.length ≤ limit
  · rw [← (hother.output_empty.1 hfits).2, hdata]
  · rw [hother.output_empty.2 (by omega)] at hok
    cases hok

end Spells

/-! ## Exact codecs -/

section Exact

variable {ε α β σ τ : Type} {limit : Nat} {w₁ : τ → Write} {r₁ : Read ε τ} {k : τ → Read ε σ}
  {rn : Read ε Nat}

/-- On the values in `K`, the writer and the reader are inverse to each other, and
`V` are the values that can be written and read. -/
structure ExactOn (limit : Nat) (K V : σ → Prop) (w : σ → Write) (r : Read ε σ) : Prop where
  encoded : ∀ m, K m → V m → ∃ bytes, Spells limit (w m) bytes ∧
    ∀ rest, r.run (bytes ++ rest) = .ok (m, rest)
  decoded : ∀ input m rest, r.run input = .ok (m, rest) → K m ∧ V m ∧
    ∃ bytes, input = bytes ++ rest ∧ Spells limit (w m) bytes

/-- The writer and the reader are inverse to each other. -/
abbrev Exact (limit : Nat) (V : σ → Prop) (w : σ → Write) (r : Read ε σ) : Prop :=
  ExactOn limit (fun _ => True) V w r

namespace ExactOn

variable {K V V₁ V' : σ → Prop} {w : σ → Write} {r : Read ε σ}

/-- The admissible values can be described in other words. -/
theorem congr (h : ExactOn limit K V w r) (hV : ∀ m, V m ↔ V' m) : ExactOn limit K V' w r where
  encoded m hK hm := h.encoded m hK ((hV m).mpr hm)
  decoded input m rest hrun := by
    obtain ⟨hK, hm, hbytes⟩ := h.decoded input m rest hrun
    exact ⟨hK, (hV m).mp hm, hbytes⟩

/-- Another writer may do for the admissible values what this one does. -/
theorem agree {w' : σ → Write} (h : ExactOn limit K V w r) (hw : ∀ m, V m → w' m = w m) :
    ExactOn limit K V w' r where
  encoded m hK hm := by
    rw [hw m hm]
    exact h.encoded m hK hm
  decoded input m rest hrun := by
    obtain ⟨hK, hm, hbytes⟩ := h.decoded input m rest hrun
    rw [hw m hm]
    exact ⟨hK, hm, hbytes⟩

/-- The field `p` of a record, and the fields after it. -/
theorem field {p : σ → τ} {V₁ : τ → Prop} (h : Exact limit V₁ w₁ r₁) (hV : ∀ m, V m → V₁ (p m))
    (hk : ∀ a, V₁ a → ExactOn limit (fun m => p m = a ∧ K m) V w (k a)) :
    ExactOn limit K V (fun m => w₁ (p m) >>= fun _ => w m) (r₁ >>= k) where
  encoded m hK hm := by
    obtain ⟨first, hfirst, hreadFirst⟩ := h.encoded (p m) trivial (hV m hm)
    obtain ⟨second, hsecond, hreadSecond⟩ := (hk (p m) (hV m hm)).encoded m ⟨rfl, hK⟩ hm
    refine ⟨first ++ second, hfirst.bind hsecond, fun rest => ?_⟩
    rw [run_bind_eq_ok]
    exact ⟨p m, second ++ rest, by rw [List.append_assoc, hreadFirst], hreadSecond rest⟩
  decoded input m rest hrun := by
    obtain ⟨a, mid, hrunFirst, hrunSecond⟩ := run_bind_eq_ok.mp hrun
    obtain ⟨-, ha, first, rfl, hfirst⟩ := h.decoded _ _ _ hrunFirst
    obtain ⟨⟨rfl, hK⟩, hm, second, rfl, hsecond⟩ := (hk a ha).decoded _ _ _ hrunSecond
    exact ⟨hK, hm, first ++ second, by rw [List.append_assoc], hfirst.bind hsecond⟩

/-- A field of which every value can be written. -/
theorem total {p : σ → τ} (h : Exact limit (fun _ => True) w₁ r₁)
    (hk : ∀ a, ExactOn limit (fun m => p m = a ∧ K m) V w (k a)) :
    ExactOn limit K V (fun m => w₁ (p m) >>= fun _ => w m) (r₁ >>= k) :=
  field h (fun _ _ => trivial) fun a _ => hk a

/-- The last field `p` of a record, which the reader then builds. -/
theorem last {p : σ → τ} {V₁ : τ → Prop} {f : τ → σ} (h : Exact limit V₁ w₁ r₁)
    (hV : ∀ m, V m → V₁ (p m)) (hbuild : ∀ m, K m → f (p m) = m)
    (hbuilt : ∀ a, V₁ a → (p (f a) = a ∧ K (f a)) ∧ V (f a)) :
    ExactOn limit K V (fun m => w₁ (p m)) (r₁ >>= fun a => pure (f a)) where
  encoded m hK hm := by
    obtain ⟨bytes, hbytes, hread⟩ := h.encoded (p m) trivial (hV m hm)
    refine ⟨bytes, hbytes, fun rest => run_bind_eq_ok.mpr ⟨p m, rest, hread rest, ?_⟩⟩
    rw [hbuild m hK]
    rfl
  decoded input m rest hrun := by
    obtain ⟨a, mid, hrunField, hrunPure⟩ := run_bind_eq_ok.mp hrun
    obtain ⟨rfl, rfl⟩ := Prod.mk.inj (Except.ok.inj hrunPure)
    obtain ⟨-, ha, bytes, rfl, hbytes⟩ := h.decoded _ _ _ hrunField
    obtain ⟨⟨hp, hK⟩, hm⟩ := hbuilt a ha
    rw [← hp] at hbytes
    exact ⟨hK, hm, bytes, rfl, hbytes⟩

/-- A value that is written as another one and recovered from it. -/
theorem demand {V : α → Prop} {w : α → Write} {r : Read ε α} (g : β → α) {parse : α → Option β}
    (e : ε) (h : Exact limit V w r) (hparse : ∀ a b, parse a = some b → g b = a) :
    Exact limit (fun b => V (g b) ∧ parse (g b) = some b) (fun b => w (g b))
      (r >>= fun a => demand (parse a) e) where
  encoded b _ hb := by
    obtain ⟨bytes, hbytes, hread⟩ := h.encoded (g b) trivial hb.1
    refine ⟨bytes, hbytes, fun rest => run_bind_eq_ok.mpr ⟨g b, rest, hread rest, ?_⟩⟩
    rw [hb.2]
    rfl
  decoded input b rest hrun := by
    obtain ⟨a, mid, hrunRead, hrunParse⟩ := run_bind_eq_ok.mp hrun
    obtain ⟨-, ha, bytes, rfl, hbytes⟩ := h.decoded _ _ _ hrunRead
    cases hsome : parse a with
    | none =>
      rw [hsome] at hrunParse
      cases hrunParse
    | some b' =>
      rw [hsome] at hrunParse
      obtain ⟨rfl, rfl⟩ := Prod.mk.inj (Except.ok.inj hrunParse)
      obtain rfl := hparse a b' hsome
      exact ⟨trivial, ⟨ha, hsome⟩, bytes, rfl, hbytes⟩

/-- A value that is written as another one and always recovered from it. -/
theorem map {V : α → Prop} {w : α → Write} {r : Read ε α} (g : β → α) (f : α → β)
    (h : Exact limit V w r) (hgf : ∀ a, V a → g (f a) = a) :
    Exact limit (fun b => V (g b) ∧ f (g b) = b) (fun b => w (g b)) (f <$> r) where
  encoded b _ hb := by
    obtain ⟨bytes, hbytes, hread⟩ := h.encoded (g b) trivial hb.1
    refine ⟨bytes, hbytes, fun rest => ?_⟩
    rw [map_eq_pure_bind, run_bind_eq_ok]
    exact ⟨g b, rest, hread rest, by rw [hb.2]; rfl⟩
  decoded input b rest hrun := by
    rw [map_eq_pure_bind] at hrun
    obtain ⟨a, mid, hrunRead, hrunPure⟩ := run_bind_eq_ok.mp hrun
    obtain ⟨rfl, rfl⟩ := Prod.mk.inj (Except.ok.inj hrunPure)
    obtain ⟨-, ha, bytes, rfl, hbytes⟩ := h.decoded _ _ _ hrunRead
    have hg := hgf a ha
    exact ⟨trivial, ⟨hg.symm ▸ ha, by rw [hg]⟩, bytes, rfl, hg.symm ▸ hbytes⟩

/-- A value that is checked after it was read. -/
theorem check {V : α → Prop} {w : α → Write} {r : Read ε α} (c : α → Bool) (e : ε)
    (h : Exact limit V w r) :
    Exact limit (fun a => V a ∧ c a = true) w
      (r >>= fun a => ensure (c a) e >>= fun _ => pure a) where
  encoded a _ ha := by
    obtain ⟨bytes, hbytes, hread⟩ := h.encoded a trivial ha.1
    refine ⟨bytes, hbytes, fun rest => run_bind_eq_ok.mpr ⟨a, rest, hread rest, ?_⟩⟩
    rw [ha.2]
    rfl
  decoded input a rest hrun := by
    obtain ⟨a', mid, hrunRead, hrunCheck⟩ := run_bind_eq_ok.mp hrun
    obtain ⟨-, ha, bytes, rfl, hbytes⟩ := h.decoded _ _ _ hrunRead
    cases hc : c a' with
    | false =>
      rw [hc] at hrunCheck
      cases hrunCheck
    | true =>
      rw [hc] at hrunCheck
      obtain ⟨rfl, rfl⟩ := Prod.mk.inj (Except.ok.inj hrunCheck)
      exact ⟨trivial, ⟨ha, hc⟩, bytes, rfl, hbytes⟩

end ExactOn

/-- One byte. -/
theorem exact_byte (e : ε) :
    Exact limit (fun _ => True) (fun byte => emit limit [byte]) (next e) where
  encoded byte _ _ := ⟨[byte], spells_emit _, fun _ => rfl⟩
  decoded input byte rest hrun := by
    cases input with
    | nil => cases hrun
    | cons first input =>
      obtain ⟨rfl, rfl⟩ := Prod.mk.inj (Except.ok.inj hrun)
      exact ⟨trivial, trivial, [first], rfl, spells_emit _⟩

/-! ## Optional values and lists -/

/-- The reader never succeeds without consuming anything. -/
def Consumes (r : Read ε α) : Prop :=
  ∀ input a rest, r.run input = .ok (a, rest) → rest.length < input.length

/-- An exact reader that fails at the end of the input consumes something. -/
theorem ExactOn.consumes {V : α → Prop} {w : α → Write} {r : Read ε α} (h : Exact limit V w r)
    {e : ε} (hempty : r.run [] = .error e) : Consumes r := by
  intro input a rest hrun
  obtain ⟨-, ha, bytes, rfl, hbytes⟩ := h.decoded _ _ _ hrun
  cases bytes with
  | cons byte bytes =>
    rw [List.length_append, List.length_cons]
    omega
  | nil =>
    -- A value written as nothing would be read from the empty input.
    obtain ⟨written, hwritten, hread⟩ := h.encoded a trivial ha
    obtain rfl := hbytes.unique hwritten (Nat.zero_le _)
    exact nomatch hempty.symm.trans (hread [])

theorem Consumes.times_length {r : Read ε α} (h : Consumes r) {xs : List α}
    (hrun : (times count r).run input = .ok (xs, rest)) : count + rest.length ≤ input.length := by
  induction count generalizing input xs with
  | zero =>
    obtain ⟨-, rfl⟩ := Prod.mk.inj (Except.ok.inj hrun)
    omega
  | succ count ih =>
    obtain ⟨a, mid, hrunFirst, hrunRest⟩ := run_bind_eq_ok.mp hrun
    obtain ⟨as, mid', hrunTimes, hrunPure⟩ := run_bind_eq_ok.mp hrunRest
    obtain ⟨-, rfl⟩ := Prod.mk.inj (Except.ok.inj hrunPure)
    have hfirst := h _ _ _ hrunFirst
    have hrest := ih hrunTimes
    omega

/-- As many values as were asked for. -/
theorem ExactOn.times {V : α → Prop} {w : α → Write} {r : Read ε α} (h : Exact limit V w r)
    (count : Nat) :
    ExactOn limit (fun xs => xs.length = count) (fun xs => ∀ x ∈ xs, V x) (fun xs => xs.forM w)
      (times count r) := by
  induction count with
  | zero =>
    refine ⟨fun xs hlength _ => ?_, fun input xs rest hrun => ?_⟩
    · obtain rfl := List.eq_nil_of_length_eq_zero hlength
      exact ⟨[], spells_pure, fun rest => rfl⟩
    · obtain ⟨rfl, rfl⟩ := Prod.mk.inj (Except.ok.inj hrun)
      exact ⟨rfl, fun x hx => (nomatch hx), [], rfl, spells_pure⟩
  | succ count ih =>
    refine ⟨fun xs hlength hV => ?_, fun input xs rest hrun => ?_⟩
    · obtain ⟨x, xs, rfl⟩ := List.exists_cons_of_length_eq_add_one hlength
      obtain ⟨first, hfirst, hreadFirst⟩ := h.encoded x trivial (hV x List.mem_cons_self)
      obtain ⟨second, hsecond, hreadSecond⟩ := ih.encoded xs (Nat.succ.inj hlength)
        fun y hy => hV y (List.mem_cons_of_mem x hy)
      refine ⟨first ++ second, hfirst.bind hsecond, fun rest => ?_⟩
      rw [List.append_assoc]
      exact run_bind_eq_ok.mpr ⟨x, _, hreadFirst _, run_bind_eq_ok.mpr
        ⟨xs, rest, hreadSecond rest, rfl⟩⟩
    · obtain ⟨x, mid, hrunFirst, hrunRest⟩ := run_bind_eq_ok.mp hrun
      obtain ⟨xs', mid', hrunTimes, hrunPure⟩ := run_bind_eq_ok.mp hrunRest
      obtain ⟨rfl, rfl⟩ := Prod.mk.inj (Except.ok.inj hrunPure)
      obtain ⟨-, hx, first, rfl, hfirst⟩ := h.decoded _ _ _ hrunFirst
      obtain ⟨hlength, hxs, second, rfl, hsecond⟩ := ih.decoded _ _ _ hrunTimes
      refine ⟨by rw [List.length_cons, hlength], ?_, first ++ second,
        (List.append_assoc _ _ _).symm, hfirst.bind hsecond⟩
      intro y hy
      rcases List.mem_cons.mp hy with rfl | hy
      · exact hx
      · exact hxs y hy

/-- Fails if fewer than `count` bytes remain. -/
def room (count : Nat) (e : ε) : Read ε Unit := fun input =>
  if input.length < count then .error e else .ok ((), input)

theorem run_room {e : ε} :
    (room count e).run input = .ok ((), rest) ↔ count ≤ input.length ∧ input = rest := by
  have hrun : (room count e).run input =
      if input.length < count then .error e else .ok ((), input) := rfl
  rw [hrun, ite_error_eq_ok, Except.ok.injEq, Prod.mk.injEq, Nat.not_lt]
  exact and_congr_right fun _ => and_iff_right rfl

/-- A list behind its size, which the reader compares with the bytes that remain. -/
theorem ExactOn.list {V : α → Prop} {w : α → Write} {r : Read ε α} (e : ε)
    (hn : Exact limit N wn rn) (h : Exact limit V w r) (hr : Consumes r) :
    Exact limit (fun xs => N xs.length ∧ ∀ x ∈ xs, V x)
      (fun xs => wn xs.length >>= fun _ => xs.forM w)
      (rn >>= fun count => room count e >>= fun _ => Codec.times count r) where
  encoded xs _ hxs := by
    obtain ⟨first, hfirst, hreadFirst⟩ := hn.encoded xs.length trivial hxs.1
    obtain ⟨second, hsecond, hreadSecond⟩ := (h.times xs.length).encoded xs rfl hxs.2
    refine ⟨first ++ second, hfirst.bind hsecond, fun rest => ?_⟩
    have hroom := hr.times_length (hreadSecond rest)
    rw [List.append_assoc]
    refine run_bind_eq_ok.mpr ⟨xs.length, _, hreadFirst _, run_bind_eq_ok.mpr ⟨(), _, ?_,
      hreadSecond rest⟩⟩
    exact run_room.mpr ⟨by omega, rfl⟩
  decoded input xs rest hrun := by
    obtain ⟨count, mid, hrunCount, hrunRest⟩ := run_bind_eq_ok.mp hrun
    obtain ⟨⟨⟩, mid', hrunRoom, hrunTimes⟩ := run_bind_eq_ok.mp hrunRest
    obtain ⟨-, rfl⟩ := run_room.mp hrunRoom
    obtain ⟨-, hcount, first, rfl, hfirst⟩ := hn.decoded _ _ _ hrunCount
    obtain ⟨rfl, hxs, second, rfl, hsecond⟩ := (h.times count).decoded _ _ _ hrunTimes
    exact ⟨trivial, ⟨hcount, hxs⟩, first ++ second, (List.append_assoc _ _ _).symm,
      hfirst.bind hsecond⟩

/-- A value behind the mark that says whether it is there. -/
theorem ExactOn.option {V : α → Prop} {w : α → Write} {r : Read ε α} {wb : Bool → Write}
    {rb : Read ε Bool} (hb : Exact limit (fun _ => True) wb rb) (h : Exact limit V w r) :
    Exact limit (fun value => ∀ a ∈ value, V a)
      (fun value => wb value.isSome >>= fun _ => value.forM w)
      (rb >>= fun present => readIf present r) where
  encoded value _ hvalue := by
    obtain ⟨first, hfirst, hreadFirst⟩ := hb.encoded value.isSome trivial trivial
    cases value with
    | none =>
      refine ⟨first ++ [], hfirst.bind spells_pure, fun rest => ?_⟩
      rw [List.append_nil]
      exact run_bind_eq_ok.mpr ⟨false, rest, hreadFirst rest, rfl⟩
    | some a =>
      obtain ⟨second, hsecond, hreadSecond⟩ := h.encoded a trivial (hvalue a rfl)
      refine ⟨first ++ second, hfirst.bind hsecond, fun rest => ?_⟩
      rw [List.append_assoc]
      refine run_bind_eq_ok.mpr ⟨true, _, hreadFirst _, ?_⟩
      change (some <$> r).run (second ++ rest) = _
      rw [map_eq_pure_bind, run_bind_eq_ok]
      exact ⟨a, rest, hreadSecond rest, rfl⟩
  decoded input value rest hrun := by
    obtain ⟨present, mid, hrunMark, hrunValue⟩ := run_bind_eq_ok.mp hrun
    obtain ⟨-, -, first, rfl, hfirst⟩ := hb.decoded _ _ _ hrunMark
    cases present with
    | false =>
      obtain ⟨rfl, rfl⟩ := Prod.mk.inj (Except.ok.inj hrunValue)
      exact ⟨trivial, fun a ha => (nomatch ha), first ++ [], by rw [List.append_nil],
        hfirst.bind spells_pure⟩
    | true =>
      change (some <$> r).run mid = _ at hrunValue
      rw [map_eq_pure_bind, run_bind_eq_ok] at hrunValue
      obtain ⟨a, mid', hrunRead, hrunPure⟩ := hrunValue
      obtain ⟨rfl, rfl⟩ := Prod.mk.inj (Except.ok.inj hrunPure)
      obtain ⟨-, ha, second, rfl, hsecond⟩ := h.decoded _ _ _ hrunRead
      refine ⟨trivial, ?_, first ++ second, (List.append_assoc _ _ _).symm, hfirst.bind hsecond⟩
      intro a' ha'
      obtain rfl := Option.some.inj ha'
      exact ha

/-- A text behind its size. -/
theorem exact_sized (e : ε) (hn : Exact limit N wn rn) :
    Exact limit (fun text => N text.length)
      (fun text => wn text.length >>= fun _ => if text.isEmpty then pure () else emit limit text)
      (rn >>= fun count => take e count) := by
  have hbody : ∀ text : List UInt8,
      Spells limit (if text.isEmpty then pure () else emit limit text) text := by
    intro text
    cases text with
    | nil => exact spells_pure
    | cons byte text => exact spells_emit _
  have hrun : ∀ count input, (take e count).run input =
      if input.length < count then .error e else .ok (input.splitAt count) := fun _ _ => rfl
  refine ⟨fun text _ htext => ?_, fun input text rest hread => ?_⟩
  · obtain ⟨first, hfirst, hreadFirst⟩ := hn.encoded text.length trivial htext
    refine ⟨first ++ text, hfirst.bind (hbody text), fun rest => ?_⟩
    rw [List.append_assoc]
    refine run_bind_eq_ok.mpr ⟨text.length, text ++ rest, hreadFirst _, ?_⟩
    rw [hrun, if_neg (by rw [List.length_append]; omega), List.splitAt_eq, List.take_left,
      List.drop_left]
  · obtain ⟨count, mid, hrunCount, hrunTake⟩ := run_bind_eq_ok.mp hread
    obtain ⟨-, hcount, first, rfl, hfirst⟩ := hn.decoded _ _ _ hrunCount
    rw [hrun, ite_error_eq_ok, List.splitAt_eq, Except.ok.injEq, Prod.mk.injEq] at hrunTake
    obtain ⟨hlength, rfl, rfl⟩ := hrunTake
    have htake : (mid.take count).length = count := by
      rw [List.length_take]
      omega
    refine ⟨trivial, htake.symm ▸ hcount, first ++ mid.take count, ?_, ?_⟩
    · rw [List.append_assoc, List.take_append_drop]
    · exact (htake.symm ▸ hfirst).bind (hbody _)

/-! ## Numbers -/

theorem spells_uint (count index value : Nat) :
    Spells limit (writeUint (fun byte => emit limit [byte]) count index value)
      (storeUint count (value >>> (index * 8))) := by
  induction count generalizing index with
  | zero => exact spells_pure
  | succ count ih =>
    have hbyte : ((value >>> (index * 8)) &&& 0xFF) = (value >>> (index * 8)) % 256 :=
      Nat.and_two_pow_sub_one_eq_mod _ 8
    have hnext : value >>> ((index + 1) * 8) = value >>> (index * 8) / 256 := by
      rw [Nat.add_mul, Nat.shiftRight_add, Nat.one_mul, Nat.shiftRight_eq_div_pow _ 8]
    have hrest := ih (index + 1)
    rw [hnext] at hrest
    rw [writeUint, storeUint, hbyte]
    exact (spells_emit _).bind hrest

theorem loadUint_lt (bytes : List UInt8) : loadUint bytes < 256 ^ bytes.length := by
  induction bytes with
  | nil => exact Nat.one_pos
  | cons byte bytes ih =>
    have hbyte := byte.toNat_lt
    rw [loadUint, List.length_cons, Nat.pow_succ]
    omega

theorem run_readUint (e : ε) (count index value : Nat) (input : List UInt8) :
    (readUint e count index value).run input =
      if input.length < count then .error e
      else .ok (value ||| loadUint (input.take count) <<< (index * 8), input.drop count) := by
  induction count generalizing index value input with
  | zero =>
    rw [if_neg (Nat.not_lt_zero _), List.take_zero, loadUint, Nat.zero_shiftLeft, Nat.or_zero]
    rfl
  | succ count ih =>
    cases input with
    | nil => rfl
    | cons byte input =>
      have hstep : (readUint e (count + 1) index value).run (byte :: input) =
          (readUint e count (index + 1) (value ||| byte.toNat <<< (index * 8))).run input := rfl
      have hload : byte.toNat + 256 * loadUint (input.take count) =
          byte.toNat ||| loadUint (input.take count) <<< 8 := by
        have hor := Nat.two_pow_add_eq_or_of_lt (i := 8) byte.toNat_lt
          (loadUint (input.take count))
        rw [Nat.shiftLeft_eq, Nat.or_comm, Nat.mul_comm _ (2 ^ 8), ← hor, Nat.add_comm]
      rw [hstep, ih, List.take_succ_cons, List.drop_succ_cons, loadUint, hload,
        Nat.shiftLeft_or_distrib, ← Nat.shiftLeft_add, Nat.or_assoc, List.length_cons,
        Nat.add_mul, Nat.one_mul, Nat.add_comm 8]
      simp only [Nat.add_lt_add_iff_right]

/-- A number of at most `width` bytes. -/
theorem exact_uint (e : ε) (width : Nat) :
    Exact limit (fun value => value < 256 ^ width)
      (fun value => writeUint (fun byte => emit limit [byte]) width 0 value)
      (readUint e width 0 0) := by
  have hwrite : ∀ value, Spells limit (writeUint (fun byte => emit limit [byte]) width 0 value)
      (storeUint width value) := by
    intro value
    have hspells := @spells_uint limit width 0 value
    rwa [Nat.zero_mul, Nat.shiftRight_zero] at hspells
  have hread : ∀ input, (readUint e width 0 0).run input =
      if input.length < width then .error e
      else .ok (loadUint (input.take width), input.drop width) := by
    intro input
    rw [run_readUint, Nat.zero_mul, Nat.shiftLeft_zero, Nat.zero_or]
  refine ⟨fun value _ hvalue => ⟨_, hwrite value, fun rest => ?_⟩,
    fun input value rest hrun => ?_⟩
  · have hlength := length_storeUint width value
    rw [hread, if_neg (by rw [List.length_append]; omega), List.take_left' hlength,
      List.drop_left' hlength, loadUint_storeUint hvalue]
  · rw [hread, ite_error_eq_ok, Except.ok.injEq, Prod.mk.injEq, Nat.not_lt] at hrun
    obtain ⟨hle, rfl, rfl⟩ := hrun
    have hlength : (input.take width).length = width := by
      rw [List.length_take]
      omega
    have hlt := loadUint_lt (input.take width)
    have hstore := storeUint_loadUint (input.take width)
    rw [hlength] at hlt hstore
    have hspells := hwrite (loadUint (input.take width))
    rw [hstore] at hspells
    exact ⟨trivial, hlt, _, (List.take_append_drop width input).symm, hspells⟩

end Exact

end Lib.Codec
