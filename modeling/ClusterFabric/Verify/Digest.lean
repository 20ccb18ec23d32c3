import ClusterFabric.Model.Digest
import ClusterFabric.Verify.Naming
import ClusterFabric.Verify.Runs

/-! # What the digest can tell apart

The hash is fed every field and a separator. A number, an identity, a heading and a
measure never contain the separator, a label may. Without a separator in the labels the
bytes can be cut into the fields again, so they determine the sequence of texts; but not
which field a text was (`digest_input_determines`). The lists of a record are rendered
without their sizes, and the number of one field may be the identity of another.
-/

namespace ClusterFabric

open Lib

variable {l l' : List DigestField} {c : UInt8} {s : ClusterState} {part : DigestPart}

/-! ## Numbers as text -/

/-- A digit of a numeral is a byte. -/
theorem toNat_digit {n : Nat} {c : Char} (hc : c ∈ Nat.toDigits 10 n) :
    48 ≤ c.toNat ∧ c.toNat ≤ 57 ∧ c.toNat.toUInt8.toNat = c.toNat := by
  have hdigit := Nat.isDigit_of_mem_toDigits (by decide) (by decide) hc
  rw [Char.isDigit_iff_toNat] at hdigit
  have hlow : 48 ≤ c.toNat := hdigit.1
  have hhigh : c.toNat ≤ 57 := hdigit.2
  refine ⟨hlow, hhigh, ?_⟩
  change c.toNat % 256 = c.toNat
  omega

theorem isDecimalDigit_of_mem_decimal {n : Nat} (hc : c ∈ decimal n) : isDecimalDigit c = true := by
  obtain ⟨d, hd, rfl⟩ := List.mem_map.mp hc
  obtain ⟨hlow, hhigh, hbyte⟩ := toNat_digit hd
  rw [isDecimalDigit_iff, hbyte]
  exact ⟨hlow, hhigh⟩

/-- The decimal rendering of a number is a numeral of it. -/
theorem numeralFrom_decimal (n : Nat) : numeralFrom 0 (decimal n) = n := by
  have hread : ∀ (digits : List Char) (init : Nat),
      (∀ c ∈ digits, c.toNat.toUInt8.toNat = c.toNat) →
      numeralFrom init (digits.map fun c => c.toNat.toUInt8) =
        Nat.ofDigitChars 10 digits init := by
    intro digits
    induction digits with
    | nil =>
      intro init _
      rfl
    | cons c digits ih =>
      intro init hbytes
      have hc := hbytes c (List.mem_cons_self ..)
      rw [List.map_cons, numeralFrom_cons, ih _ fun d hd => hbytes d (List.mem_cons_of_mem c hd),
        Nat.ofDigitChars_cons, digitValue, hc, Nat.mul_comm init 10]
      rfl
  rw [decimal, hread _ _ fun c hc => (toNat_digit hc).2.2, Nat.ofDigitChars_ten_toDigits]

theorem decimal_injective : Function.Injective decimal := by
  intro m n h
  rw [← numeralFrom_decimal m, h, numeralFrom_decimal]

theorem not_mem_decimal (hc : isDecimalDigit c = false) (n : Nat) : c ∉ decimal n := by
  intro hmem
  rw [isDecimalDigit_of_mem_decimal hmem] at hc
  cases hc

theorem decimal_ne_cons_dash (n : Nat) (rest : Text) : decimal n ≠ 45 :: rest := by
  intro h
  exact not_mem_decimal (by decide) n (h ▸ List.mem_cons_self ..)

theorem signedDecimal_injective : Function.Injective signedDecimal := by
  intro m n h
  unfold signedDecimal at h
  split_ifs at h with hm hn hn
  · have habs := decimal_injective (List.cons.inj h).2
    omega
  · exact absurd h.symm (decimal_ne_cons_dash _ _)
  · exact absurd h (decimal_ne_cons_dash _ _)
  · have habs := decimal_injective h
    omega

theorem not_mem_signedDecimal (hc : isDecimalDigit c = false) (hdash : c ≠ 45) (n : Int) :
    c ∉ signedDecimal n := by
  unfold signedDecimal
  split_ifs
  · rw [List.mem_cons, not_or]
    exact ⟨hdash, not_mem_decimal hc _⟩
  · exact not_mem_decimal hc _

/-! ## Separators -/

/-- The labels of a state that are rendered do not contain the separator. -/
def SeparatorFree (s : ClusterState) : Prop :=
  ∀ part value, ⟨part, .label value⟩ ∈ digestFields s → digestSeparator ∉ value

theorem not_mem_identity {tag : IdTag} (id : StrongId tag) : digestSeparator ∉ id.value := by
  intro hmem
  rcases id.wf with hempty | hvalid
  · rw [hempty] at hmem
    cases hmem
  · have hchar := ((isOk_validateIdentity_iff id.value).mp hvalid).2.2.1 _ hmem
    exact absurd hchar (by decide)

/-- The words of the rendering. -/
theorem digest_words :
    (∀ part ∈ [DigestPart.cluster, .rack, .link, .constraint, .retired, .withdrawn, .fenced] ++
      DomainKind.all.map .domain, digestSeparator ∉ part.heading) ∧
    (∀ p ∈ (Enumeration.all : List EvidenceProvenance), digestSeparator ∉ p.toText ∧
      47 ∉ p.toText ∧ ∀ q ∈ (Enumeration.all : List EvidenceProvenance),
        p.toText = q.toText → p = q) ∧
    (∀ f ∈ (Enumeration.all : List Freshness), digestSeparator ∉ f.toText ∧ 47 ∉ f.toText ∧
      ∀ g ∈ (Enumeration.all : List Freshness), f.toText = g.toText → f = g) ∧
    (text "nan" = [110, 97, 110] ∧ text "inf" = [105, 110, 102] ∧ text "." = [46]) ∧
    text "g" = [103] ∧ text "/p" = [47, 112] ∧ text "/f" = [47, 102] ∧ text "/e" = [47, 101] := by
  decide +kernel

theorem not_mem_heading (part : DigestPart) : digestSeparator ∉ part.heading := by
  have hopen := digest_words.1
  cases part with
  | domain kind =>
    exact hopen _ (List.mem_append_right _ (List.mem_map_of_mem (DomainKind.mem_all kind)))
  | cluster | rack | link | constraint | retired | withdrawn | fenced => exact hopen _ (by simp)
  | accelerator | endpoint | hint | linkFailureDomain | domainRack | quantity | quantityValue
  | constraintRack => exact List.not_mem_nil

theorem not_mem_toText (x : F64) : digestSeparator ∉ x.toText := by
  obtain ⟨hnan, hinf, hdot⟩ := digest_words.2.2.2.1
  have hdecimal : ∀ n, digestSeparator ∉ decimal n := not_mem_decimal (by decide)
  have hsign : digestSeparator ∉ (if x.isNegative then [45] else [] : Text) := by
    split_ifs
    · decide
    · exact List.not_mem_nil
  have hpadding : ∀ n, digestSeparator ∉ List.replicate n (48 : UInt8) := by
    intro n hmem
    exact absurd (List.eq_of_mem_replicate hmem) (by decide)
  unfold F64.toText
  simp only [hnan, hinf, hdot]
  generalize (if x.isNegative = true then [45] else [] : Text) = sign at hsign
  split_ifs
  · simp only [List.mem_append, not_or]
    exact ⟨hsign, by decide⟩
  · simp only [List.mem_append, not_or]
    exact ⟨hsign, by decide⟩
  · simp only [List.mem_append, not_or]
    exact ⟨⟨⟨⟨hsign, hdecimal _⟩, by decide⟩, hpadding _⟩, hdecimal _⟩

/-- `generation_pair` does not contain the separator, and determines its parts. -/
theorem not_mem_generationPair (part : DigestPart) (generation : DomainGeneration)
    (provenance : EvidenceProvenance) (freshness : Freshness) (observedAt : Timestamp) :
    digestSeparator ∉
      (DigestField.mk part
        (.generationPair generation provenance freshness observedAt)).render := by
  obtain ⟨hg, hp, hf, he⟩ := digest_words.2.2.2.2
  have hprovenance := (digest_words.2.1 provenance (Enumeration.mem_all _)).1
  have hfreshness := (digest_words.2.2.1 freshness (Enumeration.mem_all _)).1
  have hgeneration : digestSeparator ∉ generation.str := not_mem_decimal (by decide) _
  have hobserved := not_mem_signedDecimal (c := digestSeparator) (by decide) (by decide)
    observedAt.unixMillis.toInt
  simp only [DigestField.render, hg, hp, hf, he, List.mem_append, not_or]
  exact ⟨⟨⟨⟨⟨⟨⟨by decide, hgeneration⟩, by decide⟩, hprovenance⟩, by decide⟩, hfreshness⟩,
    by decide⟩, hobserved⟩

theorem generationPair_injective {generation generation' : DomainGeneration}
    {provenance provenance' : EvidenceProvenance} {freshness freshness' : Freshness}
    {observedAt observedAt' : Timestamp}
    (h : (DigestField.mk part
        (.generationPair generation provenance freshness observedAt)).render =
      (DigestField.mk part
        (.generationPair generation' provenance' freshness' observedAt')).render) :
    generation = generation' ∧ provenance = provenance' ∧ freshness = freshness' ∧
      observedAt = observedAt' := by
  obtain ⟨hg, hp, hf, he⟩ := digest_words.2.2.2.2
  have hprovenance := fun p => digest_words.2.1 p (Enumeration.mem_all p)
  have hfreshness := fun f => digest_words.2.2.1 f (Enumeration.mem_all f)
  -- cut at the slashes, from the last to the first
  have hcut : ((103 :: generation.str ++ 47 :: 112 :: provenance.toText) ++
      47 :: 102 :: freshness.toText) ++ 47 :: 101 :: signedDecimal observedAt.unixMillis.toInt =
      ((103 :: generation'.str ++ 47 :: 112 :: provenance'.toText) ++
      47 :: 102 :: freshness'.toText) ++
        47 :: 101 :: signedDecimal observedAt'.unixMillis.toInt := by
    simpa [DigestField.render, hg, hp, hf, he] using h
  have hsigned : ∀ n, 47 ∉ 101 :: signedDecimal n := fun n => by
    rw [List.mem_cons, not_or]
    exact ⟨by decide, not_mem_signedDecimal (by decide) (by decide) n⟩
  have hfresh : ∀ f : Freshness, 47 ∉ 102 :: f.toText := fun f => by
    rw [List.mem_cons, not_or]
    exact ⟨by decide, (hfreshness f).2.1⟩
  have hprov : ∀ p : EvidenceProvenance, 47 ∉ 112 :: p.toText := fun p => by
    rw [List.mem_cons, not_or]
    exact ⟨by decide, (hprovenance p).2.1⟩
  obtain ⟨hrest, hobserved⟩ := Digits.last_part_eq (hsigned _) (hsigned _) hcut
  obtain ⟨hrest, hfreshness'⟩ := Digits.last_part_eq (hfresh _) (hfresh _) hrest
  obtain ⟨hrest, hprovenance'⟩ := Digits.last_part_eq (hprov _) (hprov _) hrest
  refine ⟨?_, ?_, ?_, ?_⟩
  · exact StrongCounter.ext_value (decimal_injective (List.cons.inj hrest).2)
  · exact (hprovenance _).2.2 _ (Enumeration.mem_all _) (List.cons.inj hprovenance').2
  · exact (hfreshness _).2.2 _ (Enumeration.mem_all _) (List.cons.inj hfreshness').2
  · have hmillis := signedDecimal_injective (List.cons.inj hobserved).2
    exact congrArg Timestamp.mk (Int64.toInt_inj.mp hmillis)

/-! ## Fields -/

/-- What a field is rendered from. -/
inductive DigestKind
  | heading | identity (tag : IdTag) | number | label | measure | generationPair
  deriving DecidableEq

def DigestValue.kind : DigestValue → DigestKind
  | .heading => .heading
  | .identity tag _ => .identity tag
  | .number _ => .number
  | .label _ => .label
  | .measure _ => .measure
  | .generationPair .. => .generationPair

/-- Two fields of one part hold the same, a measure to six decimals. -/
def DigestField.Agrees (f g : DigestField) : Prop :=
  f.part = g.part ∧ (f.value = g.value ∨
    ∃ x y, f.value = .measure x ∧ g.value = .measure y ∧ x.toText = y.toText)

theorem DigestField.Agrees.render_eq {f g : DigestField} (h : f.Agrees g) :
    f.render = g.render := by
  obtain ⟨part, value⟩ := f
  obtain ⟨part', value'⟩ := g
  obtain ⟨hpart, hvalue | ⟨x, y, hx, hy, htext⟩⟩ := h
  · obtain rfl : part = part' := hpart
    obtain rfl : value = value' := hvalue
    rfl
  · obtain rfl : value = .measure x := hx
    obtain rfl : value' = .measure y := hy
    exact htext

/-- Two fields of one part and one kind that are rendered alike hold the same. -/
theorem DigestField.agrees_of_render_eq {value value' : DigestValue}
    (hkind : value.kind = value'.kind)
    (h : (DigestField.mk part value).render = (DigestField.mk part value').render) :
    (DigestField.mk part value).Agrees ⟨part, value'⟩ := by
  refine ⟨rfl, ?_⟩
  cases value with
  | heading =>
    cases value' <;> cases hkind
    exact .inl rfl
  | identity tag id =>
    cases value' <;> cases hkind
    exact .inl (congrArg (DigestValue.identity tag) (StrongId.value_injective h))
  | number n =>
    cases value' <;> cases hkind
    exact .inl (congrArg DigestValue.number (UInt64.toNat_inj.mp (decimal_injective h)))
  | label value =>
    cases value' <;> cases hkind
    exact .inl (congrArg DigestValue.label h)
  | measure x =>
    cases value' <;> cases hkind
    exact .inr ⟨x, _, rfl, rfl, h⟩
  | generationPair generation provenance freshness observedAt =>
    cases value' <;> cases hkind
    obtain ⟨rfl, rfl, rfl, rfl⟩ := generationPair_injective h
    exact .inl rfl

theorem not_mem_render (hs : SeparatorFree s) {field : DigestField}
    (hfield : field ∈ digestFields s) : digestSeparator ∉ field.render := by
  obtain ⟨part, value⟩ := field
  cases value with
  | heading => exact not_mem_heading part
  | identity tag id => exact not_mem_identity id
  | number n => exact not_mem_decimal (by decide) _
  | label value => exact hs part value hfield
  | measure x => exact not_mem_toText x
  | generationPair => exact not_mem_generationPair part _ _ _ _

/-! ## States -/

/-- Which part and kind the fields of a state are of, one after another. -/
def digestLayout (s : ClusterState) : List (DigestPart × DigestKind) :=
  (digestFields s).map fun field => (field.part, field.value.kind)

/-- Fields of one layout that are rendered alike agree. -/
theorem agree_of_layout
    (hlayout : l.map (fun f => (f.part, f.value.kind)) = l'.map fun f => (f.part, f.value.kind))
    (hrender : l.map DigestField.render = l'.map DigestField.render) :
    List.Forall₂ DigestField.Agrees l l' := by
  induction l generalizing l' with
  | nil =>
    cases l' with
    | nil => exact .nil
    | cons => cases hlayout
  | cons f l ih =>
    cases l' with
    | nil => cases hlayout
    | cons g l' =>
      obtain ⟨part, value⟩ := f
      obtain ⟨part', value'⟩ := g
      obtain ⟨hhead, htail⟩ := List.cons.inj hlayout
      obtain ⟨hpart, hkind⟩ := Prod.mk.inj hhead
      obtain rfl : part = part' := hpart
      obtain ⟨hfirst, hrest⟩ := List.cons.inj hrender
      exact .cons (DigestField.agrees_of_render_eq hkind hfirst) (ih htail hrest)

theorem map_render_of_agree (h : List.Forall₂ DigestField.Agrees l l') :
    l.map DigestField.render = l'.map DigestField.render := by
  induction h with
  | nil => rfl
  | cons hfirst _ ih => rw [List.map_cons, List.map_cons, hfirst.render_eq, ih]

/-- If no label contains the separator, the bytes fed to the hash determine the sequence of
texts, and of two states of one layout every field, a measure to six decimals. -/
theorem digest_input_determines (s s' : ClusterState) (hs : SeparatorFree s)
    (hs' : SeparatorFree s') :
    (digestInput s = digestInput s' ↔
      (digestFields s).map DigestField.render = (digestFields s').map DigestField.render) ∧
    (digestLayout s = digestLayout s' →
      (digestInput s = digestInput s' ↔
        List.Forall₂ DigestField.Agrees (digestFields s) (digestFields s'))) := by
  have hparts : ∀ s, digestInput s =
      ((digestFields s).map DigestField.render).flatMap fun a => a ++ [digestSeparator] := by
    intro s
    rw [List.flatMap_map]
    rfl
  have hfree : ∀ {s}, SeparatorFree s →
      ∀ a ∈ (digestFields s).map DigestField.render, digestSeparator ∉ a := by
    intro s hs a ha
    obtain ⟨field, hfield, rfl⟩ := List.mem_map.mp ha
    exact not_mem_render hs hfield
  have htexts : digestInput s = digestInput s' ↔
      (digestFields s).map DigestField.render = (digestFields s').map DigestField.render := by
    rw [hparts, hparts]
    exact ⟨Digits.separated_injective (hfree hs) (hfree hs'), fun h => by rw [h]⟩
  refine ⟨htexts, fun hlayout => ?_⟩
  rw [htexts]
  exact ⟨agree_of_layout hlayout, map_render_of_agree⟩

section Example

open scoped StdSort
open Coordinator

/-- The state of a cluster with one rack, published with these endpoints and hints. -/
def furnished (endpoints : List RackEndpoint) (hints : List RackFailureDomainHint) :
    ClusterState :=
  let published := publishedRack "r1" "b1"
  (sample [.submit declaration ⟨2⟩, .submit
    { published with
      rackReference :=
        { published.rackReference with endpoints := endpoints, failureDomainHints := hints } }
    ⟨3⟩]).canonical

/-- The endpoint `3`, of the connectivity class with the number 2. -/
def endpointThree : RackEndpoint := { id := .named "3", connectivity := .switchedFabric }

/-- A hint at the domain `2`, of the failure domain class with the number 3. -/
def hintTwo : RackFailureDomainHint := { klass := .switchPlane, id := .named "2" }

/-- The labels of a state, as they can be checked. -/
def separatorFree (s : ClusterState) : Bool :=
  (digestFields s).all fun field =>
    match field.value with
    | .label value => !value.contains digestSeparator
    | _ => true

theorem separatorFree_of_check (h : separatorFree s = true) : SeparatorFree s := by
  intro part value hfield
  have hlabel := List.all_eq_true.mp h _ hfield
  simpa using hlabel

theorem furnished_digests :
    separatorFree (furnished [endpointThree] []) = true ∧
      separatorFree (furnished [] [hintTwo]) = true ∧
      ((furnished [endpointThree] []).racks.find? (.named "r1")).map
          (fun record => record.reference.endpoints) = some [endpointThree] ∧
      ((furnished [] [hintTwo]).racks.find? (.named "r1")).map
          (fun record => record.reference.endpoints) = some [] ∧
      digestInput (furnished [endpointThree] []) = digestInput (furnished [] [hintTwo]) := by
  decide +kernel

/-- A hint at another domain of the class. -/
def hintThree : RackFailureDomainHint := { hintTwo with id := .named "3" }

theorem hinted_digests :
    separatorFree (furnished [] [hintThree]) = true ∧
      digestLayout (furnished [] [hintTwo]) = digestLayout (furnished [] [hintThree]) ∧
      digestInput (furnished [] [hintTwo]) ≠ digestInput (furnished [] [hintThree]) := by
  decide +kernel

/-- Two states of different layouts with the same bytes, and two of one layout whose bytes
differ as their hints do. -/
theorem digest_input_determines_furnished :
    (digestFields (furnished [endpointThree] [])).map DigestField.render =
        (digestFields (furnished [] [hintTwo])).map DigestField.render ∧
      ¬List.Forall₂ DigestField.Agrees (digestFields (furnished [] [hintTwo]))
        (digestFields (furnished [] [hintThree])) := by
  obtain ⟨hs, hs', -, -, hbytes⟩ := furnished_digests
  obtain ⟨hs'', hlayout, hdiffer⟩ := hinted_digests
  have hfree := separatorFree_of_check hs'
  have hsame := digest_input_determines _ _ (separatorFree_of_check hs) hfree
  have hother := digest_input_determines _ _ hfree (separatorFree_of_check hs'')
  exact ⟨hsame.1.mp hbytes, fun h => hdiffer ((hother.2 hlayout).mpr h)⟩

/-- Two reachable states, of a rack with an endpoint and of a rack without, are fed to the
hash as the same bytes. -/
theorem digest_input_collides :
    (∃ c, Reachable cellStore c ∧ c.canonical = furnished [endpointThree] []) ∧
      (∃ c, Reachable cellStore c ∧ c.canonical = furnished [] [hintTwo]) ∧
      ((furnished [endpointThree] []).racks.find? (.named "r1")).map
          (fun record => record.reference.endpoints) ≠
        ((furnished [] [hintTwo]).racks.find? (.named "r1")).map
          (fun record => record.reference.endpoints) ∧
      digestInput (furnished [endpointThree] []) = digestInput (furnished [] [hintTwo]) := by
  obtain ⟨-, -, hendpoints, hnone, hbytes⟩ := furnished_digests
  refine ⟨⟨_, reachable_sample _, rfl⟩, ⟨_, reachable_sample _, rfl⟩, ?_, hbytes⟩
  rw [hendpoints, hnone]
  exact fun h => nomatch h

end Example

end ClusterFabric
