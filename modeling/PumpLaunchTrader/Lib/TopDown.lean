import Mathlib.Data.Set.Finite.List
import Mathlib.Data.Set.Card

/-! # Reading nested values from the top down

A grammar says how the head of a value is read, and which parts follow it. A value is read
head first and then part by part, each part the same way. The reading may not end, since a part
can lead back to where it stands without taking anything; the functions here follow it to a
given depth. -/

/-! ## Self-delimiting readers

A reader takes the front of its input and returns a value with what is left, or refuses the
input. It is self-delimiting when what it takes decides what it returns, and when it refuses
whatever ends too early. -/

namespace SelfDelimiting

universe u

variable {σ ε : Type*} {β γ : Type u}

/-- What a reader makes of its inputs: which it reads, as what and with what left, and which it
refuses. -/
@[ext] structure Behaviour (σ : Type*) (β : Type u) where
  reads : List σ → β → List σ → Prop
  refuses : List σ → Prop

/-- What is taken decides what is read, and less is refused. -/
def Delimits (behaviour : Behaviour σ β) : Prop :=
  ∀ input value rest, behaviour.reads input value rest → ∃ taken, input = taken ++ rest ∧
    (∀ tail, behaviour.reads (taken ++ tail) value tail) ∧
    ∀ cut, cut <+: taken → cut ≠ taken → behaviour.refuses cut

namespace Behaviour

/-- Take nothing. -/
def done (value : β) : Behaviour σ β where
  reads input result rest := result = value ∧ rest = input
  refuses _ := False

/-- Read on where another reader has stopped. -/
def andThen (first : Behaviour σ β) (next : β → Behaviour σ γ) : Behaviour σ γ where
  reads input result rest :=
    ∃ value middle, first.reads input value middle ∧ (next value).reads middle result rest
  refuses input :=
    first.refuses input ∨ ∃ value middle, first.reads input value middle ∧
      (next value).refuses middle

end Behaviour

theorem delimits_done (value : β) : Delimits (Behaviour.done value : Behaviour σ β) := by
  rintro input result rest ⟨rfl, rfl⟩
  refine ⟨[], rfl, fun tail => ⟨rfl, rfl⟩, fun cut hcut hne => ?_⟩
  exact absurd (List.prefix_nil.mp hcut) hne

/-- A front of a concatenation ends within the first part or within the second. -/
theorem prefix_append_split {cut first second : List σ} (h : cut <+: first ++ second) :
    (cut <+: first ∧ cut ≠ first) ∨ ∃ more, cut = first ++ more ∧ more <+: second := by
  rcases List.prefix_or_prefix_of_prefix h (List.prefix_append first second) with hcut | hfirst
  · by_cases heq : cut = first
    · exact .inr ⟨[], by simpa using heq, List.nil_prefix⟩
    · exact .inl ⟨hcut, heq⟩
  · obtain ⟨more, rfl⟩ := hfirst
    exact .inr ⟨more, rfl, (List.prefix_append_right_inj first).mp h⟩

theorem Delimits.andThen {first : Behaviour σ β} {next : β → Behaviour σ γ}
    (hfirst : Delimits first) (hnext : ∀ value, Delimits (next value)) :
    Delimits (first.andThen next) := by
  rintro input result rest ⟨value, middle, hreads, hmore⟩
  obtain ⟨taken, rfl, hlocal, hcut⟩ := hfirst input value middle hreads
  obtain ⟨more, rfl, hlocal', hcut'⟩ := hnext value middle result rest hmore
  refine ⟨taken ++ more, (List.append_assoc taken more rest).symm, fun tail => ?_,
    fun cut hprefix hne => ?_⟩
  · rw [List.append_assoc]
    exact ⟨value, more ++ tail, hlocal (more ++ tail), hlocal' tail⟩
  · rcases prefix_append_split hprefix with ⟨hshort, hne'⟩ | ⟨cut', rfl, hshort⟩
    · exact .inl (hcut cut hshort hne')
    · refine .inr ⟨value, cut', hlocal cut', hcut' cut' hshort ?_⟩
      rintro rfl
      exact hne rfl

/-- What is read to its end is not read to the end of any more, and no front of it is read. -/
theorem Delimits.of_reads_nil {behaviour : Behaviour σ β} (h : Delimits behaviour)
    {input : List σ} {value : β} (hread : behaviour.reads input value []) :
    (∀ tail, behaviour.reads (input ++ tail) value tail) ∧
      ∀ cut, cut <+: input → cut ≠ input → behaviour.refuses cut := by
  obtain ⟨taken, rfl, hlocal, hcut⟩ := h input value [] hread
  rw [List.append_nil]
  exact ⟨hlocal, hcut⟩

/-! ## Readers that return a result -/

/-- The behaviour of a reader that fails with an error. -/
def ofReader (reader : List σ → Except ε (β × List σ)) : Behaviour σ β where
  reads input value rest := reader input = .ok (value, rest)
  refuses input := ∃ e, reader input = .error e

theorem ofReader_ok (value : β) :
    ofReader (fun input : List σ => (.ok (value, input) : Except ε (β × List σ))) =
      Behaviour.done value := by
  ext input result rest
  · simp only [ofReader, Behaviour.done, Except.ok.injEq, Prod.mk.injEq]
    constructor
    · rintro ⟨rfl, rfl⟩
      exact ⟨rfl, rfl⟩
    · rintro ⟨rfl, rfl⟩
      exact ⟨rfl, rfl⟩
  · simp [ofReader, Behaviour.done]

theorem ofReader_bind (reader : List σ → Except ε (β × List σ))
    (next : β → List σ → Except ε (γ × List σ)) :
    ofReader (fun input => do
      let (value, rest) ← reader input
      next value rest) =
      (ofReader reader).andThen fun value => ofReader (next value) := by
  ext input result rest
  · simp only [ofReader, Behaviour.andThen]
    cases hreader : reader input with
    | error e => simp [bind, Except.bind]
    | ok out =>
        obtain ⟨value, middle⟩ := out
        simp [bind, Except.bind]
  · simp only [ofReader, Behaviour.andThen]
    cases hreader : reader input with
    | error e => simp [bind, Except.bind]
    | ok out =>
        obtain ⟨value, middle⟩ := out
        simp [bind, Except.bind]

/-- A reader that refuses everything. -/
theorem delimits_error (e : ε) :
    Delimits (ofReader fun _ : List σ => (.error e : Except ε (β × List σ))) := by
  intro input value rest h
  cases h

end SelfDelimiting

namespace TopDown

universe u

/-! ## Relations without an infinite chain -/

section Descent

variable {τ : Type*} {r : τ → τ → Prop}

theorem not_transGen_self_of_acc {a : τ} (h : Acc (Function.swap r) a) :
    ¬ Relation.TransGen r a a := by
  induction h with
  | intro a _ ih =>
      intro hcycle
      obtain ⟨b, hab, hba⟩ := Relation.TransGen.head'_iff.mp hcycle
      exact ih b hab (Relation.TransGen.tail' hba hab)

/-- Over finitely many reachable points, a relation without a cycle has no infinite chain: each
step leaves fewer points to reach. -/
theorem acc_iff_forall_not_transGen {a : τ}
    (hfinite : {b | Relation.ReflTransGen r a b}.Finite) :
    Acc (Function.swap r) a ↔
      ∀ b, Relation.ReflTransGen r a b → ¬ Relation.TransGen r b b := by
  constructor
  · intro hacc b hreach
    have hb : Acc (Function.swap r) b := by
      induction hreach with
      | refl => exact hacc
      | tail _ hstep ih => exact ih.inv hstep
    exact not_transGen_self_of_acc hb
  · intro hacyclic
    induction hcard : {b | Relation.TransGen r a b}.ncard using Nat.strong_induction_on
      generalizing a with
    | _ n ih =>
        refine Acc.intro a fun b hab => ?_
        have hab : r a b := hab
        have hless : {c | Relation.TransGen r b c} ⊂ {c | Relation.TransGen r a c} := by
          refine ⟨fun c hc => hc.head hab, fun hsubset => ?_⟩
          exact hacyclic b (.single hab) (hsubset (.single hab))
        have hlater : {c | Relation.TransGen r a c}.Finite :=
          hfinite.subset fun c hc => hc.to_reflTransGen
        refine ih _ (hcard ▸ Set.ncard_lt_ncard hless hlater) ?_ (fun c hc => ?_) rfl
        · exact hfinite.subset fun c hc => hc.head hab
        · exact hacyclic c (hc.head hab)

end Descent

variable {ν α ε : Type u} {σ : Type u}

/-- The head of a value: the parts that follow it, and the value that theirs make up. -/
structure Head (ν α : Type u) where
  parts : List ν
  build : List α → α

/-- How the head of each kind of value is read. -/
structure Grammar (ν σ ε α : Type u) where
  head : ν → List σ → Except ε (Head ν α × List σ)

/-! ## Reading to a depth -/

/-- The places that a reading visits, and its result; nothing when it goes deeper than it is
followed. -/
abbrev Outcome (ν σ ε β : Type u) := Option (List (ν × List σ) × Except ε (β × List σ))

namespace Outcome

variable {β γ : Type u}

def done (value : β) (rest : List σ) : Outcome ν σ ε β := some ([], .ok (value, rest))

/-- Read on where a reading has stopped. -/
def andThen (first : Outcome ν σ ε β) (next : β → List σ → Outcome ν σ ε γ) :
    Outcome ν σ ε γ :=
  match first with
  | none => none
  | some (visits, .error e) => some (visits, .error e)
  | some (visits, .ok (value, rest)) =>
    (next value rest).map fun out => (visits ++ out.1, out.2)

theorem some_andThen (visits : List (ν × List σ)) (value : β) (rest : List σ)
    (next : β → List σ → Outcome ν σ ε γ) :
    andThen (some (visits, .ok (value, rest))) next =
      (next value rest).map fun out => (visits ++ out.1, out.2) :=
  rfl

theorem isSome_andThen {first : Outcome ν σ ε β} {next : β → List σ → Outcome ν σ ε γ} :
    (first.andThen next).isSome ↔ first.isSome ∧ ∀ visits value rest,
      first = some (visits, .ok (value, rest)) → (next value rest).isSome := by
  cases first with
  | none => simp [andThen]
  | some out =>
      obtain ⟨visits, result⟩ := out
      cases result with
      | error e => simp [andThen]
      | ok read =>
          obtain ⟨value, rest⟩ := read
          simp only [andThen, Option.isSome_map, Option.isSome_some, true_and]
          constructor
          · intro h visits' value' rest' heq
            cases heq
            exact h
          · intro h
            exact h visits value rest rfl

theorem andThen_eq_ok {first : Outcome ν σ ε β} {next : β → List σ → Outcome ν σ ε γ}
    {all : List (ν × List σ)} {result : γ} {rest : List σ}
    (h : first.andThen next = some (all, .ok (result, rest))) :
    ∃ visits value middle more, first = some (visits, .ok (value, middle)) ∧
      next value middle = some (more, .ok (result, rest)) ∧ all = visits ++ more := by
  cases first with
  | none => simp [andThen] at h
  | some out =>
      obtain ⟨visits, read⟩ := out
      cases read with
      | error e => simp [andThen] at h
      | ok read =>
          obtain ⟨value, middle⟩ := read
          cases hnext : next value middle with
          | none => simp [andThen, hnext] at h
          | some out =>
              obtain ⟨more, last⟩ := out
              simp only [andThen, hnext, Option.map_some, Option.some.injEq,
                Prod.mk.injEq] at h
              obtain ⟨rfl, rfl⟩ := h
              exact ⟨visits, value, middle, more, rfl, hnext, rfl⟩

theorem andThen_done (first : Outcome ν σ ε β) (f : β → γ) :
    (first.andThen fun value rest => .done (f value) rest) =
      first.map fun out => (out.1, out.2.map fun read => (f read.1, read.2)) := by
  cases first with
  | none => rfl
  | some out =>
      obtain ⟨visits, result⟩ := out
      cases result with
      | error e => rfl
      | ok read => simp [andThen, done, Except.map]

/-- What is known of a reading stays when both of its parts are followed deeper. -/
theorem andThen_mono {first first' : Outcome ν σ ε β}
    {next next' : β → List σ → Outcome ν σ ε γ}
    (hfirst : ∀ out, first = some out → first' = some out)
    (hnext : ∀ value rest out, next value rest = some out → next' value rest = some out)
    {out : List (ν × List σ) × Except ε (γ × List σ)} (h : first.andThen next = some out) :
    first'.andThen next' = some out := by
  cases hout : first with
  | none =>
      rw [hout] at h
      cases h
  | some read =>
      rw [hfirst read hout]
      rw [hout] at h
      obtain ⟨visits, result⟩ := read
      cases result with
      | error e => exact h
      | ok read =>
          obtain ⟨value, rest⟩ := read
          simp only [andThen] at h ⊢
          cases hmore : next value rest with
          | none =>
              rw [hmore] at h
              cases h
          | some more =>
              rw [hnext value rest more hmore]
              rwa [hmore] at h

end Outcome

/-- Read one value after the other. -/
def readList (read : ν → List σ → Outcome ν σ ε α) : List ν → List σ → Outcome ν σ ε (List α)
  | [], input => .done [] input
  | node :: nodes, input =>
    (read node input).andThen fun value rest =>
      (readList read nodes rest).andThen fun values rest => .done (value :: values) rest

/-- Read a value, down to a depth. -/
def Grammar.read (g : Grammar ν σ ε α) : ℕ → ν → List σ → Outcome ν σ ε α
  | 0, _, _ => none
  | depth + 1, node, input =>
    Outcome.andThen (some ([(node, input)], g.head node input)) fun head rest =>
      (readList (g.read depth) head.parts rest).andThen fun values rest =>
        .done (head.build values) rest

theorem readList_mono {read read' : ν → List σ → Outcome ν σ ε α}
    (h : ∀ node input out, read node input = some out → read' node input = some out)
    (nodes : List ν) (input : List σ) {out : List (ν × List σ) × Except ε (List α × List σ)}
    (hout : readList read nodes input = some out) : readList read' nodes input = some out := by
  induction nodes generalizing input out with
  | nil => exact hout
  | cons node nodes ih =>
      refine Outcome.andThen_mono (h node input) (fun value rest more hmore => ?_) hout
      exact Outcome.andThen_mono (fun out => ih rest) (fun _ _ _ hlast => hlast) hmore

theorem readList_cons (read : ν → List σ → Outcome ν σ ε α) (node : ν) (nodes : List ν)
    (input : List σ) :
    readList read (node :: nodes) input = (read node input).andThen fun value rest =>
      (readList read nodes rest).map fun out =>
        (out.1, out.2.map fun read => (value :: read.1, read.2)) := by
  rw [readList]
  congr 1
  funext value rest
  exact Outcome.andThen_done _ fun values => value :: values

/-- What the reading of a list has made of its first value. -/
theorem readList_cons_cases {read : ν → List σ → Outcome ν σ ε α} {node : ν} {nodes : List ν}
    {input : List σ} {visits : List (ν × List σ)} {result : Except ε (List α × List σ)}
    (h : readList read (node :: nodes) input = some (visits, result)) :
    (∃ e, read node input = some (visits, .error e) ∧ result = .error e) ∨
      ∃ first value rest more others, read node input = some (first, .ok (value, rest)) ∧
        readList read nodes rest = some (more, others) ∧ visits = first ++ more ∧
        result = others.map fun read => (value :: read.1, read.2) := by
  rw [readList_cons] at h
  cases hout : read node input with
  | none =>
      rw [hout] at h
      cases h
  | some out =>
      obtain ⟨first, value⟩ := out
      rw [hout] at h
      cases value with
      | error e =>
          cases h
          exact .inl ⟨e, rfl, rfl⟩
      | ok read =>
          obtain ⟨value, rest⟩ := read
          rw [Outcome.some_andThen, Option.map_map, Option.map_eq_some_iff] at h
          obtain ⟨⟨more, others⟩, hmore, heq⟩ := h
          cases heq
          exact .inr ⟨first, value, rest, more, others, rfl, hmore, rfl, rfl⟩

/-- As many values are read as kinds were asked for. -/
theorem length_of_readList {read : ν → List σ → Outcome ν σ ε α} {nodes : List ν}
    {input rest : List σ} {visits : List (ν × List σ)} {values : List α}
    (h : readList read nodes input = some (visits, .ok (values, rest))) :
    values.length = nodes.length := by
  induction nodes generalizing input rest visits values with
  | nil =>
      cases h
      rfl
  | cons node nodes ih =>
      obtain ⟨_, value, middle, _, _, hmore, -⟩ := Outcome.andThen_eq_ok h
      obtain ⟨_, others, tail, _, hothers, hdone, -⟩ := Outcome.andThen_eq_ok hmore
      cases hdone
      rw [List.length_cons, List.length_cons, ih hothers]

namespace Grammar

variable (g : Grammar ν σ ε α)

theorem read_of_error {node : ν} {input : List σ} {e : ε} (h : g.head node input = .error e)
    (depth : ℕ) : g.read (depth + 1) node input = some ([(node, input)], .error e) := by
  rw [Grammar.read, h]
  rfl

theorem read_of_ok {node : ν} {input rest : List σ} {head : Head ν α}
    (h : g.head node input = .ok (head, rest)) (depth : ℕ) :
    g.read (depth + 1) node input =
      (readList (g.read depth) head.parts rest).map fun out =>
        ((node, input) :: out.1, out.2.map fun read => (head.build read.1, read.2)) := by
  rw [Grammar.read, h, Outcome.some_andThen, Outcome.andThen_done, Option.map_map]
  rfl

theorem read_succ {depth : ℕ} {node : ν} {input : List σ}
    {out : List (ν × List σ) × Except ε (α × List σ)} (h : g.read depth node input = some out) :
    g.read (depth + 1) node input = some out := by
  induction depth generalizing node input out with
  | zero => cases h
  | succ depth ih =>
      refine Outcome.andThen_mono (fun _ hfirst => hfirst) (fun head rest more hmore => ?_) h
      exact Outcome.andThen_mono
        (fun _ => readList_mono (fun node input out => ih) head.parts rest)
        (fun _ _ _ hlast => hlast) hmore

/-- A reading that ends is the same followed deeper. -/
theorem read_mono {depth deeper : ℕ} (hle : depth ≤ deeper) {node : ν} {input : List σ}
    {out : List (ν × List σ) × Except ε (α × List σ)} (h : g.read depth node input = some out) :
    g.read deeper node input = some out := by
  induction hle with
  | refl => exact h
  | step _ ih => exact g.read_succ ih

theorem readList_read_mono {depth deeper : ℕ} (hle : depth ≤ deeper) {nodes : List ν}
    {input : List σ} {out : List (ν × List σ) × Except ε (List α × List σ)}
    (h : readList (g.read depth) nodes input = some out) :
    readList (g.read deeper) nodes input = some out :=
  readList_mono (fun _ _ _ => g.read_mono hle) nodes input h

end Grammar

/-! ## What is taken -/

open SelfDelimiting

/-- The behaviour of a reading to a depth. -/
def ofOutcome {β : Type u} (read : List σ → Outcome ν σ ε β) : Behaviour σ β where
  reads input value rest := ∃ visits, read input = some (visits, .ok (value, rest))
  refuses input := ∃ visits e, read input = some (visits, .error e)

theorem Outcome.andThen_of_ok {β γ : Type u} {visits : List (ν × List σ)} {value : β}
    {rest : List σ} {next : β → List σ → Outcome ν σ ε γ} {more : List (ν × List σ)}
    {result : Except ε (γ × List σ)} (h : next value rest = some (more, result)) :
    Outcome.andThen (some (visits, .ok (value, rest))) next = some (visits ++ more, result) := by
  simp only [Outcome.andThen, h, Option.map_some]

theorem delimits_andThen {β γ : Type u} {first : List σ → Outcome ν σ ε β}
    {next : β → List σ → Outcome ν σ ε γ} (hfirst : Delimits (ofOutcome first))
    (hnext : ∀ value, Delimits (ofOutcome (next value))) :
    Delimits (ofOutcome fun input => (first input).andThen next) := by
  intro input result rest hreads
  obtain ⟨all, hall⟩ := hreads
  obtain ⟨visits, value, middle, more, hread, hmore, -⟩ := Outcome.andThen_eq_ok hall
  obtain ⟨taken, htaken, hlocal, hcut⟩ := hfirst.andThen hnext input result rest
    ⟨value, middle, ⟨visits, hread⟩, ⟨more, hmore⟩⟩
  refine ⟨taken, htaken, fun tail => ?_, fun cut hprefix hne => ?_⟩
  · obtain ⟨value, middle, ⟨visits, hread⟩, ⟨more, hmore⟩⟩ := hlocal tail
    refine ⟨visits ++ more, ?_⟩
    simp only [hread]
    exact Outcome.andThen_of_ok hmore
  · rcases hcut cut hprefix hne with ⟨visits, e, hrefused⟩ | ⟨value, middle, hread, hrefused⟩
    · exact ⟨visits, e, by simp only [hrefused, Outcome.andThen]⟩
    · obtain ⟨visits, hread⟩ := hread
      obtain ⟨more, e, hrefused⟩ := hrefused
      refine ⟨visits ++ more, e, ?_⟩
      simp only [hread]
      exact Outcome.andThen_of_ok hrefused

theorem delimits_done {β : Type u} (value : β) :
    Delimits (ofOutcome fun input => (.done value input : Outcome ν σ ε β)) := by
  rintro input result rest ⟨visits, h⟩
  cases h
  exact ⟨[], rfl, fun tail => ⟨[], rfl⟩, fun cut hcut hne =>
    absurd (List.prefix_nil.mp hcut) hne⟩

theorem delimits_readList {read : ν → List σ → Outcome ν σ ε α}
    (h : ∀ node, Delimits (ofOutcome (read node))) (nodes : List ν) :
    Delimits (ofOutcome (readList read nodes)) := by
  induction nodes with
  | nil => exact delimits_done []
  | cons node nodes ih =>
      exact delimits_andThen (h node) fun value =>
        delimits_andThen ih fun values => delimits_done (value :: values)

namespace Grammar

variable (g : Grammar ν σ ε α)

/-- The heads of a grammar are self-delimiting. -/
def Delimited : Prop := ∀ node, Delimits (ofReader (g.head node))

variable {g}

/-- So are the values. -/
theorem Delimited.read (h : g.Delimited) (depth : ℕ) (node : ν) :
    Delimits (ofOutcome (g.read depth node)) := by
  induction depth generalizing node with
  | zero =>
      rintro input value rest ⟨visits, hread⟩
      cases hread
  | succ depth ih =>
      have hhead : Delimits (ofOutcome fun input =>
          (some ([(node, input)], g.head node input) : Outcome ν σ ε (Head ν α))) := by
        rintro input head rest ⟨visits, hread⟩
        simp only [Option.some.injEq, Prod.mk.injEq] at hread
        obtain ⟨taken, htaken, hlocal, hcut⟩ := h node input head rest hread.2
        refine ⟨taken, htaken, fun tail => ⟨_, congrArg some (Prod.ext rfl (hlocal tail))⟩,
          fun cut hprefix hne => ?_⟩
        obtain ⟨e, hrefused⟩ := hcut cut hprefix hne
        exact ⟨_, e, congrArg some (Prod.ext rfl hrefused)⟩
      exact delimits_andThen hhead fun head =>
        delimits_andThen (delimits_readList ih head.parts) fun values =>
          delimits_done (head.build values)

end Grammar

/-! ## What the bytes of a value are -/

/-- The inputs that values of a list of kinds are made of: each value is its head and its
parts. -/
inductive Grammar.EncodesList (g : Grammar ν σ ε α) : List ν → List σ → List α → Prop
  | nil : EncodesList g [] [] []
  | cons {node : ν} {nodes : List ν} {front body more : List σ} {head : Head ν α}
      {values others : List α} (hhead : ∀ tail, g.head node (front ++ tail) = .ok (head, tail))
      (hparts : EncodesList g head.parts body values) (hmore : EncodesList g nodes more others) :
      EncodesList g (node :: nodes) (front ++ body ++ more) (head.build values :: others)

namespace Grammar

variable {g : Grammar ν σ ε α}

theorem EncodesList.append {nodes others : List ν} {front back : List σ} {values more : List α}
    (hfirst : g.EncodesList nodes front values) (hlast : g.EncodesList others back more) :
    g.EncodesList (nodes ++ others) (front ++ back) (values ++ more) := by
  induction hfirst with
  | nil => exact hlast
  | cons hhead hparts _ _ ih =>
      rw [List.cons_append, List.append_assoc, List.cons_append]
      exact .cons hhead hparts ih

/-- What is read one after the other was encoded so. -/
theorem encodesList_of_readList {read : ν → List σ → Outcome ν σ ε α}
    (hread : ∀ node input visits value rest, read node input = some (visits, .ok (value, rest)) →
      ∃ taken, input = taken ++ rest ∧ g.EncodesList [node] taken [value])
    (nodes : List ν) {input rest : List σ} {values : List α} {visits : List (ν × List σ)}
    (h : readList read nodes input = some (visits, .ok (values, rest))) :
    ∃ taken, input = taken ++ rest ∧ g.EncodesList nodes taken values := by
  induction nodes generalizing input rest values visits with
  | nil =>
      cases h
      exact ⟨[], rfl, .nil⟩
  | cons node nodes ih =>
      obtain ⟨first, value, middle, more, hfirst, hmore, -⟩ := Outcome.andThen_eq_ok h
      obtain ⟨front, rfl, hvalue⟩ := hread node input first value middle hfirst
      obtain ⟨others, tail, last, _, hlast, hdone, -⟩ := Outcome.andThen_eq_ok hmore
      obtain ⟨back, rfl, hothers⟩ := ih hlast
      cases hdone
      exact ⟨front ++ back, (List.append_assoc front back _).symm, hvalue.append hothers⟩

/-- What is read was encoded so. -/
theorem Delimited.encodes_of_read (hg : g.Delimited) {depth : ℕ} {node : ν} {input rest : List σ}
    {value : α} {visits : List (ν × List σ)}
    (h : g.read depth node input = some (visits, .ok (value, rest))) :
    ∃ taken, input = taken ++ rest ∧ g.EncodesList [node] taken [value] := by
  induction depth generalizing node input rest value visits with
  | zero => cases h
  | succ depth ih =>
      obtain ⟨first, head, middle, more, hfirst, hmore, -⟩ := Outcome.andThen_eq_ok h
      simp only [Option.some.injEq, Prod.mk.injEq] at hfirst
      obtain ⟨front, rfl, hhead, -⟩ := hg node input head middle hfirst.2
      obtain ⟨visits, values, last, _, hparts, hdone, -⟩ := Outcome.andThen_eq_ok hmore
      obtain ⟨body, rfl, hbody⟩ := encodesList_of_readList
        (fun node input visits value rest => ih) head.parts hparts
      cases hdone
      refine ⟨front ++ body, (List.append_assoc front body _).symm, ?_⟩
      have hvalue := EncodesList.cons hhead hbody .nil
      rwa [List.append_nil] at hvalue

theorem readList_cons_of_ok {read : ν → List σ → Outcome ν σ ε α} {node : ν} {nodes : List ν}
    {input middle rest : List σ} {first more : List (ν × List σ)} {value : α} {values : List α}
    (hfirst : read node input = some (first, .ok (value, middle)))
    (hmore : readList read nodes middle = some (more, .ok (values, rest))) :
    readList read (node :: nodes) input =
      some (first ++ (more ++ []), .ok (value :: values, rest)) := by
  rw [readList, hfirst]
  exact Outcome.andThen_of_ok (by rw [hmore]; exact Outcome.andThen_of_ok rfl)

/-- What is encoded is read to the end, whatever follows. -/
theorem EncodesList.exists_readList {nodes : List ν} {input : List σ} {values : List α}
    (h : g.EncodesList nodes input values) :
    ∃ depth, ∀ tail, ∃ visits,
      readList (g.read depth) nodes (input ++ tail) = some (visits, .ok (values, tail)) := by
  induction h with
  | nil => exact ⟨0, fun tail => ⟨[], rfl⟩⟩
  | @cons node nodes front body more head values others hhead hparts hmore ihparts ihmore =>
      obtain ⟨deep, hdeep⟩ := ihparts
      obtain ⟨flat, hflat⟩ := ihmore
      refine ⟨max (deep + 1) flat, fun tail => ?_⟩
      obtain ⟨visits, hbody⟩ := hdeep (more ++ tail)
      obtain ⟨rest, hothers⟩ := hflat tail
      have hvalue : g.read (deep + 1) node (front ++ body ++ more ++ tail) =
          some ([(node, front ++ body ++ more ++ tail)] ++ (visits ++ []),
            .ok (head.build values, more ++ tail)) := by
        rw [Grammar.read]
        rw [List.append_assoc, List.append_assoc, hhead]
        exact Outcome.andThen_of_ok (by rw [hbody]; exact Outcome.andThen_of_ok rfl)
      exact ⟨_, readList_cons_of_ok (g.read_mono (le_max_left _ _) hvalue)
        (g.readList_read_mono (le_max_right _ _) hothers)⟩

/-- A reading of what is encoded that ends has read it. -/
theorem EncodesList.readList_eq {nodes : List ν} {input : List σ} {values : List α}
    (h : g.EncodesList nodes input values) {depth : ℕ} {tail : List σ}
    {out : List (ν × List σ) × Except ε (List α × List σ)}
    (hout : readList (g.read depth) nodes (input ++ tail) = some out) :
    out.2 = .ok (values, tail) := by
  obtain ⟨deep, hdeep⟩ := h.exists_readList
  obtain ⟨visits, hread⟩ := hdeep tail
  have hsame := (g.readList_read_mono (le_max_left depth deep) hout).symm.trans
    (g.readList_read_mono (le_max_right depth deep) hread)
  rw [Option.some.injEq] at hsame
  rw [hsame]

/-! ## When a reading ends -/

/-- One of the kinds of a list stands at an input: those before it are encoded up to there. -/
def StandsAt (g : Grammar ν σ ε α) (nodes : List ν) (input : List σ) (place : ν × List σ) :
    Prop :=
  ∃ before after taken values, nodes = before ++ place.1 :: after ∧
    g.EncodesList before taken values ∧ input = taken ++ place.2

/-- Reading a value leads to a part of it. -/
def Enters (g : Grammar ν σ ε α) (place place' : ν × List σ) : Prop :=
  ∃ head rest, g.head place.1 place.2 = .ok (head, rest) ∧ g.StandsAt head.parts rest place'

/-- A reading that ends at some depth. -/
def Ends (g : Grammar ν σ ε α) (place : ν × List σ) : Prop :=
  ∃ depth, (g.read depth place.1 place.2).isSome

theorem StandsAt.head (g : Grammar ν σ ε α) (node : ν) (nodes : List ν) (input : List σ) :
    g.StandsAt (node :: nodes) input (node, input) :=
  ⟨[], nodes, [], [], rfl, .nil, rfl⟩

theorem StandsAt.cons {node : ν} {nodes : List ν} {front input : List σ} {value : α}
    {place : ν × List σ} (hfront : g.EncodesList [node] front [value])
    (h : g.StandsAt nodes input place) : g.StandsAt (node :: nodes) (front ++ input) place := by
  obtain ⟨before, after, taken, values, rfl, hbefore, rfl⟩ := h
  exact ⟨node :: before, after, front ++ taken, value :: values, rfl, hfront.append hbefore,
    (List.append_assoc front taken _).symm⟩

theorem isSome_readList_mono {depth deeper : ℕ} (hle : depth ≤ deeper) {nodes : List ν}
    {input : List σ} (h : (readList (g.read depth) nodes input).isSome) :
    (readList (g.read deeper) nodes input).isSome := by
  obtain ⟨out, hout⟩ := Option.isSome_iff_exists.mp h
  rw [g.readList_read_mono hle hout]
  rfl

theorem isSome_andThen_done {β γ : Type u} {first : Outcome ν σ ε β} (f : β → γ) :
    (first.andThen fun value rest => .done (f value) rest).isSome = first.isSome := by
  rw [Outcome.andThen_done, Option.isSome_map]

/-- A list is read when every kind of it ends where it stands. -/
theorem Delimited.ends_list (hg : g.Delimited) (nodes : List ν) (input : List σ)
    (h : ∀ place, g.StandsAt nodes input place → g.Ends place) :
    ∃ depth, (readList (g.read depth) nodes input).isSome := by
  induction nodes generalizing input with
  | nil => exact ⟨0, rfl⟩
  | cons node nodes ih =>
      obtain ⟨depth, hdepth⟩ := h (node, input) (StandsAt.head g node nodes input)
      obtain ⟨out, hout⟩ := Option.isSome_iff_exists.mp hdepth
      simp only at hout
      obtain ⟨visits, result⟩ := out
      cases result with
      | error e =>
          refine ⟨depth, ?_⟩
          rw [readList, hout]
          rfl
      | ok read =>
          obtain ⟨value, rest⟩ := read
          obtain ⟨front, rfl, hfront⟩ := hg.encodes_of_read hout
          obtain ⟨deeper, hdeeper⟩ := ih rest fun place hplace => h place (hplace.cons hfront)
          refine ⟨max depth deeper, ?_⟩
          rw [readList, g.read_mono (le_max_left depth deeper) hout, Outcome.isSome_andThen]
          refine ⟨rfl, fun visits' value' rest' heq => ?_⟩
          cases heq
          rw [isSome_andThen_done]
          exact isSome_readList_mono (le_max_right depth deeper) hdeeper

/-- A list that is read in two parts. -/
theorem isSome_readList_append {read : ν → List σ → Outcome ν σ ε α} (before nodes : List ν)
    {input : List σ} (h : (readList read (before ++ nodes) input).isSome) :
    (readList read before input).isSome ∧ ∀ visits values rest,
      readList read before input = some (visits, .ok (values, rest)) →
      (readList read nodes rest).isSome := by
  induction before generalizing input with
  | nil =>
      refine ⟨rfl, fun visits values rest hdone => ?_⟩
      cases hdone
      exact h
  | cons node before ih =>
      rw [List.cons_append, readList, Outcome.isSome_andThen] at h
      obtain ⟨hfirst, hnext⟩ := h
      have hrest : ∀ visits value rest, read node input = some (visits, .ok (value, rest)) →
          (readList read (before ++ nodes) rest).isSome := by
        intro visits value rest hread
        have hmore := hnext visits value rest hread
        rwa [isSome_andThen_done] at hmore
      constructor
      · rw [readList, Outcome.isSome_andThen]
        refine ⟨hfirst, fun visits value rest hread => ?_⟩
        rw [isSome_andThen_done]
        exact (ih (hrest visits value rest hread)).1
      · intro visits values rest hread
        obtain ⟨first, value, middle, more, hvalue, hothers, -⟩ := Outcome.andThen_eq_ok hread
        obtain ⟨others, tail, last, _, htail, hdone, -⟩ := Outcome.andThen_eq_ok hothers
        cases hdone
        exact (ih (hrest first value middle hvalue)).2 others tail _ htail

/-- Where a list is read, every kind of it has ended where it stands. -/
theorem StandsAt.isSome_read {nodes : List ν} {input : List σ} {place : ν × List σ}
    (h : g.StandsAt nodes input place) {depth : ℕ}
    (hread : (readList (g.read depth) nodes input).isSome) :
    (g.read depth place.1 place.2).isSome := by
  obtain ⟨before, after, taken, values, rfl, hbefore, rfl⟩ := h
  obtain ⟨hfirst, hnext⟩ := isSome_readList_append before (place.1 :: after) hread
  obtain ⟨⟨visits, result⟩, hout⟩ := Option.isSome_iff_exists.mp hfirst
  obtain rfl : result = .ok (values, place.2) := hbefore.readList_eq hout
  have hlist := hnext visits values place.2 hout
  rw [readList, Outcome.isSome_andThen] at hlist
  exact hlist.1

theorem isSome_read_succ {depth : ℕ} {node : ν} {input : List σ} :
    (g.read (depth + 1) node input).isSome ↔ ∀ head rest, g.head node input = .ok (head, rest) →
      (readList (g.read depth) head.parts rest).isSome := by
  rw [Grammar.read, Outcome.isSome_andThen]
  constructor
  · intro h head rest hhead
    have hparts := h.2 _ head rest (congrArg some (Prod.ext rfl hhead))
    rwa [isSome_andThen_done] at hparts
  · intro h
    refine ⟨rfl, fun visits head rest hhead => ?_⟩
    rw [isSome_andThen_done]
    simp only [Option.some.injEq, Prod.mk.injEq] at hhead
    exact h head rest hhead.2

/-- What a reading that ends enters, ends one level up. -/
theorem Enters.isSome_read {place place' : ν × List σ} (h : g.Enters place place') {depth : ℕ}
    (hread : (g.read (depth + 1) place.1 place.2).isSome) :
    (g.read depth place'.1 place'.2).isSome := by
  obtain ⟨head, rest, hhead, hstands⟩ := h
  exact hstands.isSome_read (isSome_read_succ.mp hread head rest hhead)

theorem acc_of_isSome_read {depth : ℕ} {place : ν × List σ}
    (h : (g.read depth place.1 place.2).isSome) : Acc (Function.swap g.Enters) place := by
  induction depth generalizing place with
  | zero => cases h
  | succ depth ih => exact Acc.intro place fun place' hplace => ih (hplace.isSome_read h)

/-- A reading ends when it enters no infinite chain of places. -/
theorem Delimited.ends_iff_acc (hg : g.Delimited) (place : ν × List σ) :
    g.Ends place ↔ Acc (Function.swap g.Enters) place := by
  constructor
  · rintro ⟨depth, h⟩
    exact acc_of_isSome_read h
  · intro h
    induction h with
    | intro place _ ih =>
        cases hhead : g.head place.1 place.2 with
        | error e =>
            refine ⟨1, isSome_read_succ.mpr fun head rest heq => ?_⟩
            rw [hhead] at heq
            cases heq
        | ok read =>
            obtain ⟨head, rest⟩ := read
            obtain ⟨depth, hdepth⟩ := hg.ends_list head.parts rest fun place' hplace =>
              ih place' ⟨head, rest, hhead, hplace⟩
            refine ⟨depth + 1, isSome_read_succ.mpr fun head' rest' heq => ?_⟩
            rw [hhead] at heq
            cases heq
            exact hdepth

/-! ## The places of a reading -/

/-- A reading of an encoded value that ends has read it. -/
theorem EncodesList.read_eq {node : ν} {front : List σ} {value : α}
    (h : g.EncodesList [node] front [value]) {depth : ℕ} {tail : List σ}
    {out : List (ν × List σ) × Except ε (α × List σ)}
    (hout : g.read depth node (front ++ tail) = some out) : out.2 = .ok (value, tail) := by
  obtain ⟨deep, hdeep⟩ := h.exists_readList
  obtain ⟨visits, hread⟩ := hdeep tail
  obtain ⟨first, value', middle, more, hfirst, hmore, -⟩ := Outcome.andThen_eq_ok hread
  cases hmore
  have hsame := (g.read_mono (le_max_left depth deep) hout).symm.trans
    (g.read_mono (le_max_right depth deep) hfirst)
  rw [Option.some.injEq] at hsame
  rw [hsame]

theorem standsAt_cons_iff {node : ν} {nodes : List ν} {input : List σ} {place : ν × List σ} :
    g.StandsAt (node :: nodes) input place ↔ place = (node, input) ∨
      ∃ front value rest, g.EncodesList [node] front [value] ∧ input = front ++ rest ∧
        g.StandsAt nodes rest place := by
  constructor
  · rintro ⟨before, after, taken, values, hnodes, hbefore, rfl⟩
    cases hbefore with
    | nil =>
        obtain ⟨rfl, rfl⟩ := List.cons.inj hnodes
        exact .inl rfl
    | @cons _ before front body more head vs others hhead hparts hmore =>
        obtain ⟨rfl, rfl⟩ := List.cons.inj hnodes
        have hvalue := EncodesList.cons hhead hparts .nil
        rw [List.append_nil] at hvalue
        exact .inr ⟨front ++ body, head.build vs, more ++ place.2, hvalue, by simp,
          before, after, more, others, rfl, hmore, rfl⟩
  · rintro (rfl | ⟨front, value, rest, hfront, rfl, hstands⟩)
    · exact StandsAt.head g node nodes input
    · exact hstands.cons hfront

theorem not_standsAt_nil {input : List σ} {place : ν × List σ} :
    ¬ g.StandsAt [] input place := by
  rintro ⟨before, after, taken, values, hnodes, -, -⟩
  simp at hnodes

/-- The places that the reading of a list visits are reached from where its kinds stand. -/
theorem Delimited.mem_visits_readList (hg : g.Delimited) {depth : ℕ}
    (hread : ∀ node input visits result, g.read depth node input = some (visits, result) →
      ∀ place, place ∈ visits ↔ Relation.ReflTransGen g.Enters (node, input) place)
    {nodes : List ν} {input : List σ} {visits : List (ν × List σ)}
    {result : Except ε (List α × List σ)}
    (h : readList (g.read depth) nodes input = some (visits, result)) (place : ν × List σ) :
    place ∈ visits ↔ ∃ start, g.StandsAt nodes input start ∧
      Relation.ReflTransGen g.Enters start place := by
  induction nodes generalizing input visits result with
  | nil =>
      cases h
      simp [not_standsAt_nil]
  | cons node nodes ih =>
      simp only [standsAt_cons_iff]
      rcases readList_cons_cases h with ⟨e, hout, rfl⟩ |
        ⟨first, value, rest, more, others, hout, hmore, rfl, rfl⟩
      · rw [hread node input visits _ hout place]
        constructor
        · intro hreach
          exact ⟨(node, input), .inl rfl, hreach⟩
        · rintro ⟨start, rfl | ⟨front, value, rest, hfront, rfl, -⟩, hreach⟩
          · exact hreach
          · cases hfront.read_eq hout
      · obtain ⟨taken, rfl, htaken⟩ := hg.encodes_of_read hout
        rw [List.mem_append, hread node _ first _ hout place, ih hmore]
        constructor
        · rintro (hreach | ⟨start, hstart, hreach⟩)
          · exact ⟨_, .inl rfl, hreach⟩
          · exact ⟨start, .inr ⟨taken, value, rest, htaken, rfl, hstart⟩, hreach⟩
        · rintro ⟨start, rfl | ⟨front, value', rest', hfront, heq, hstart⟩, hreach⟩
          · exact .inl hreach
          · rw [heq] at hout
            obtain ⟨rfl, rfl⟩ : value = value' ∧ rest = rest' := by
              simpa using hfront.read_eq hout
            exact .inr ⟨start, hstart, hreach⟩

/-- A reading that ends visits exactly the places that are reached from where it starts. -/
theorem Delimited.mem_visits_iff (hg : g.Delimited) {depth : ℕ} {node : ν} {input : List σ}
    {visits : List (ν × List σ)} {result : Except ε (α × List σ)}
    (h : g.read depth node input = some (visits, result)) (place : ν × List σ) :
    place ∈ visits ↔ Relation.ReflTransGen g.Enters (node, input) place := by
  induction depth generalizing node input visits result place with
  | zero => cases h
  | succ depth ih =>
      rw [Relation.ReflTransGen.cases_head_iff]
      cases hhead : g.head node input with
      | error e =>
          rw [g.read_of_error hhead] at h
          cases h
          rw [List.mem_singleton, eq_comm]
          refine ⟨.inl, ?_⟩
          rintro (heq | ⟨next, ⟨head, rest, heq, -⟩, -⟩)
          · exact heq
          · rw [hhead] at heq
            cases heq
      | ok read =>
          obtain ⟨head, rest⟩ := read
          rw [g.read_of_ok hhead] at h
          cases hparts : readList (g.read depth) head.parts rest with
          | none =>
              rw [hparts] at h
              cases h
          | some out =>
              rw [hparts] at h
              cases h
              rw [List.mem_cons, hg.mem_visits_readList
                (fun node input visits result hread place => ih hread place) hparts place]
              refine or_congr eq_comm (exists_congr fun next => and_congr_left fun _ => ?_)
              constructor
              · intro hstands
                exact ⟨head, rest, hhead, hstands⟩
              · rintro ⟨head', rest', heq, hstands⟩
                rw [hhead] at heq
                cases heq
                exact hstands

/-! ## Finitely many kinds -/

/-- The kinds of a set have parts in the set only. -/
def ClosedUnder (g : Grammar ν σ ε α) (kinds : Set ν) : Prop :=
  ∀ node ∈ kinds, ∀ input head rest, g.head node input = .ok (head, rest) →
    ∀ part ∈ head.parts, part ∈ kinds

theorem Delimited.mem_of_reaches (hg : g.Delimited) {kinds : Set ν} (hclosed : g.ClosedUnder kinds)
    {place place' : ν × List σ} (hplace : place.1 ∈ kinds)
    (h : Relation.ReflTransGen g.Enters place place') :
    place'.1 ∈ kinds ∧ place'.2 <:+ place.2 := by
  induction h with
  | refl => exact ⟨hplace, List.suffix_rfl⟩
  | tail _ hstep ih =>
      obtain ⟨head, rest, hhead, before, after, taken, values, hparts, -, rfl⟩ := hstep
      obtain ⟨front, hfront, -⟩ := hg _ _ _ _ hhead
      refine ⟨hclosed _ ih.1 _ _ _ hhead _ (hparts ▸ by simp), List.IsSuffix.trans ?_ ih.2⟩
      rw [hfront]
      exact ⟨front ++ taken, List.append_assoc front taken _⟩

/-- With finitely many kinds, a reading ends exactly when no value is entered again where it
stands. -/
theorem Delimited.ends_iff (hg : g.Delimited) {kinds : Set ν} (hfinite : kinds.Finite)
    (hclosed : g.ClosedUnder kinds) {place : ν × List σ} (hplace : place.1 ∈ kinds) :
    g.Ends place ↔ ∀ place', Relation.ReflTransGen g.Enters place place' →
      ¬ Relation.TransGen g.Enters place' place' := by
  rw [hg.ends_iff_acc]
  apply acc_iff_forall_not_transGen
  refine (hfinite.prod (List.finite_toSet place.2.tails)).subset fun place' hreach => ?_
  obtain ⟨hkind, hsuffix⟩ := hg.mem_of_reaches hclosed hplace hreach
  exact ⟨hkind, (List.mem_tails place'.2 place.2).mpr hsuffix⟩

end Grammar

end TopDown
