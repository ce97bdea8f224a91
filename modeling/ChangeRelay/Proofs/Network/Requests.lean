import ChangeRelay.Network.Http

/-!
# Which requests can be built

Whether a request can be built depends on its address and its headers alone.  The request then
asks for the address without credentials, and carries the headers in their order behind the
content type that a body brings.
-/

namespace ChangeRelay.Network.Http

/-- Requests to an address with some headers can be built: it is read as this one, and they
carry these headers. -/
structure Usable (address : String) (headers : List (String × String)) (written : Url)
    (carried : List (String × String)) : Prop where
  read : Url.ofText? address = some written
  hosted : written.host ≠ ""
  headers : headers.mapM readHeader? = some carried
  scheme : written.withoutCredentials.scheme ∈ ["http", "https"]
  sendable : isSendable written.withoutCredentials = true

variable {transport : Transport}

/-- What comes of building a request, fault by fault. -/
theorem build_eq (method : Method) (address : String) (headers : List (String × String))
    (body : Option Json) :
    build transport method address headers body =
      match Url.ofText? address with
      | none => .error (.notBuilt none)
      | some written =>
          if written.host = "" then .error (.notBuilt (some written))
          else
            match headers.mapM readHeader? with
            | none => .error (.notBuilt none)
            | some carried =>
                let url := written.withoutCredentials
                if url.scheme ∈ ["http", "https"] ∧ isSendable url = true then
                  .ok (transport.prepare method written (bodyHeaders body ++ carried) body)
                else .error (.notBuilt (some url)) := by
  unfold build
  cases Url.ofText? address with
  | none => rfl
  | some written =>
      dsimp only
      split
      · rfl
      · cases headers.mapM readHeader? with
        | none => rfl
        | some carried =>
            dsimp only
            split <;> rfl

theorem build_eq_ok_iff {method : Method} {address : String} {headers : List (String × String)}
    {body : Option Json} {request : Request} :
    build transport method address headers body = .ok request ↔
      ∃ written carried, Usable address headers written carried ∧
        request = transport.prepare method written (bodyHeaders body ++ carried) body := by
  rw [build_eq]
  constructor
  · intro built
    split at built
    next => cases built
    next written read =>
      split at built
      next => cases built
      next hosted =>
        split at built
        next => cases built
        next carried carries =>
          dsimp only at built
          split at built
          next fits =>
            cases built
            exact ⟨written, carried, ⟨read, hosted, carries, fits.1, fits.2⟩, rfl⟩
          next => cases built
  · rintro ⟨written, carried, ⟨read, hosted, carries, scheme, sendable⟩, rfl⟩
    simp only [read, if_neg hosted, carries]
    exact if_pos ⟨scheme, sendable⟩

/-! ## Headers -/

/-- The name of a header as it is sent.  Names that are sent alike name one header. -/
def sentName (name : String) : String :=
  String.ofList (name.toList.map Host.lowerAscii)

theorem lowerAscii_lowerAscii (c : Char) :
    Host.lowerAscii (Host.lowerAscii c) = Host.lowerAscii c := by
  by_cases upper : 'A' ≤ c ∧ c ≤ 'Z'
  · have small : c.toNat < 91 := Nat.lt_succ_of_le upper.2
    have all : ∀ n < 91, Host.lowerAscii (Host.lowerAscii (Char.ofNat n)) =
        Host.lowerAscii (Char.ofNat n) := by decide
    simpa using all c.toNat small
  · have same : Host.lowerAscii c = c := if_neg upper
    rw [same, same]

@[simp]
theorem sentName_sentName (name : String) : sentName (sentName name) = sentName name := by
  simp [sentName, Function.comp_def, lowerAscii_lowerAscii]

/-- A name and a value that can be sent as a header. -/
structure IsHeader (header : String × String) : Prop where
  name : isHeaderName header.1 = true
  value : isHeaderValue header.2 = true

instance (header : String × String) : Decidable (IsHeader header) :=
  decidable_of_iff (isHeaderName header.1 = true ∧ isHeaderValue header.2 = true)
    ⟨fun ⟨name, value⟩ => ⟨name, value⟩, fun ⟨name, value⟩ => ⟨name, value⟩⟩

theorem readHeader?_eq_some_iff {header sent : String × String} :
    readHeader? header = some sent ↔ IsHeader header ∧ sent = (sentName header.1, header.2) := by
  by_cases valid : (isHeaderName header.1 && isHeaderValue header.2) = true
  · rw [readHeader?, if_pos valid, Option.some.injEq, eq_comm]
    rcases Bool.and_eq_true_iff.mp valid with ⟨name, value⟩
    exact (and_iff_right ⟨name, value⟩).symm
  · rw [readHeader?, if_neg valid]
    constructor
    · intro read
      cases read
    · rintro ⟨⟨name, value⟩, -⟩
      exact absurd (Bool.and_eq_true_iff.mpr ⟨name, value⟩) valid

/-- Headers can be sent together exactly if each of them can be sent. -/
theorem mapM_readHeader?_eq_some_iff {headers carried : List (String × String)} :
    headers.mapM readHeader? = some carried ↔
      (∀ header ∈ headers, IsHeader header) ∧
        carried = headers.map fun header => (sentName header.1, header.2) := by
  induction headers generalizing carried with
  | nil => simp [eq_comm]
  | cons header headers ih =>
      simp only [List.mapM_cons, Option.bind_eq_bind, Option.bind_eq_some_iff, Option.pure_def,
        Option.some.injEq, readHeader?_eq_some_iff, ih, List.forall_mem_cons, List.map_cons]
      constructor
      · rintro ⟨_, ⟨valid, rfl⟩, _, ⟨others, rfl⟩, rfl⟩
        exact ⟨⟨valid, others⟩, rfl⟩
      · rintro ⟨⟨valid, others⟩, rfl⟩
        exact ⟨_, ⟨valid, rfl⟩, _, ⟨others, rfl⟩, rfl⟩

/-- A place can be asked at an address, which is read as this one. -/
def Asks (address : String) (written : Url) : Prop :=
  Usable address [] written []

theorem usable_iff {address : String} {headers : List (String × String)} {written : Url}
    {carried : List (String × String)} :
    Usable address headers written carried ↔
      Asks address written ∧ headers.mapM readHeader? = some carried := by
  constructor
  · rintro ⟨read, hosted, headers, scheme, sendable⟩
    exact ⟨⟨read, hosted, rfl, scheme, sendable⟩, headers⟩
  · rintro ⟨⟨read, hosted, -, scheme, sendable⟩, headers⟩
    exact ⟨read, hosted, headers, scheme, sendable⟩

theorem Asks.unique {address : String} {written other : Url} (asks : Asks address written)
    (alsoAsks : Asks address other) : written = other :=
  Option.some.inj (asks.read.symm.trans alsoAsks.read)

theorem exists_asks_of_isSome_build {address : String}
    (built : (build .absent .head address [] none).toOption.isSome = true) :
    ∃ written, Asks address written := by
  cases result : build .absent .head address [] none with
  | error failure =>
      rw [result] at built
      cases built
  | ok request =>
      rcases build_eq_ok_iff.mp result with ⟨written, carried, usable, -⟩
      exact ⟨written, (usable_iff.mp usable).1⟩

end ChangeRelay.Network.Http
