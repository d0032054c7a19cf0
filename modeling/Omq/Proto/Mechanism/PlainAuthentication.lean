import Omq.Proto.Mechanism.Plain

/-!
# Authentication by PLAIN

A PLAIN server completes on INITIATE, and only behind a HELLO whose credentials its authenticator
allowed, whatever else it is sent.  The decoder of HELLO inverts the encoder, but reads on no
further than the password, so bytes behind it are not noticed.
-/

namespace Omq

open List

/-! ## HELLO -/

variable {body username password : Bytes}

/-- The credentials as they are written into HELLO. -/
def hello (username password : Bytes) : Bytes :=
  UInt8.ofNat username.length :: username ++ UInt8.ofNat password.length :: password

theorem length_hello (username password : Bytes) :
    (hello username password).length = username.length + password.length + 2 := by
  simp [hello]
  omega

def Presentable (credential : Bytes) : Prop :=
  isUtf8 credential = true ∧ credential.length ≤ 255

theorem encodeHello_eq (user : Presentable username) (pass : Presentable password) :
    encodeHello username password = .ok (hello username password) := by
  rw [encodeHello, if_neg (Nat.not_lt.mpr user.2), if_neg (Nat.not_lt.mpr pass.2), hello]

theorem toNat_length {credential : Bytes} (short : credential.length ≤ 255) :
    (UInt8.ofNat credential.length).toNat = credential.length := by
  simpa using Nat.mod_eq_of_lt (Nat.lt_succ_of_le short)

theorem decodeHello_hello (user : Presentable username) (pass : Presentable password)
    (extra : Bytes) :
    decodeHello (hello username password ++ extra) = .ok (username, password) := by
  rw [hello, cons_append, cons_append, append_assoc, cons_append, decodeHello]
  have behind : (username ++ UInt8.ofNat password.length :: (password ++ extra)).drop
      (username.length + 1) = password ++ extra := by
    simp
  simp only [toNat_length user.2, behind]
  simp [toNat_length pass.2, user.1, pass.1]

/-- What the decoder accepts starts with credentials as they are written. -/
theorem eq_hello_of_decodeHello (decoded : decodeHello body = .ok (username, password)) :
    Presentable username ∧ Presentable password ∧
      ∃ extra, body = hello username password ++ extra := by
  cases body with
  | nil => cases decoded
  | cons first rest =>
    simp only [decodeHello] at decoded
    split_ifs at decoded with short bad_user short_pass bad_pass
    obtain ⟨rfl, rfl⟩ := Prod.mk.inj (Except.ok.inj decoded)
    have in_range : first.toNat < rest.length := by omega
    have user_len : (rest.take first.toNat).length = first.toNat := by
      rw [length_take]
      omega
    have rest_eq : rest = rest.take first.toNat ++
        rest.getD first.toNat 0 :: rest.drop (first.toNat + 1) := by
      rw [getD_eq_getElem _ _ in_range, ← drop_eq_getElem_cons in_range, take_append_drop]
    generalize rest.getD first.toNat 0 = second at *
    generalize rest.drop (first.toNat + 1) = tail at *
    have pass_len : (tail.take second.toNat).length = second.toNat := by
      rw [length_take]
      omega
    have user_le := first.toNat_lt
    have pass_le := second.toNat_lt
    refine ⟨⟨by simpa using bad_user, by omega⟩, ⟨by simpa using bad_pass, by omega⟩,
      tail.drop second.toNat, ?_⟩
    rw [hello, user_len, pass_len, UInt8.ofNat_toNat, UInt8.ofNat_toNat]
    simpa using rest_eq

/-- The length of a HELLO body by its two length bytes. -/
def announcedLength (body : Bytes) : Nat :=
  let userLen := (body.getD 0 0).toNat
  userLen + (body.getD (userLen + 1) 0).toNat + 2

theorem announcedLength_hello (user : Presentable username) (pass : Presentable password)
    (extra : Bytes) : announcedLength (hello username password ++ extra) =
      (hello username password).length := by
  have user_len : ((hello username password ++ extra).getD 0 0).toNat = username.length :=
    toNat_length user.2
  have pass_len : ((hello username password ++ extra).getD (username.length + 1) 0).toNat =
      password.length := by
    simp [hello, toNat_length pass.2]
  simp only [announcedLength, user_len, pass_len, length_hello]

/-! ## Commands -/

namespace PlainMechanism

/-- What the authenticator is told about the presented credentials. -/
def presented (username password : Bytes) : MechanismPeerInfo where
  mechanism := .plain
  publicKey := replicate 32 0
  identity := none
  username := some username
  password := some password

/-- One of the commands is a HELLO with credentials which are allowed. -/
def Admitted (authenticator : Authenticator) (commands : List Command) : Prop :=
  ∃ body username password, .unknown (ascii "HELLO") body ∈ commands ∧
    decodeHello body = .ok (username, password) ∧ authenticator (presented username password) = true

/-- The mechanism after a command, taken or refused. -/
def receive (state : PlainMechanism × Environment) (command : Command) :
    PlainMechanism × Environment :=
  let reply := state.1.onCommand state.2 command
  (reply.mechanism, reply.env)

/-- Past its first state the server has admitted a client. -/
def Sound (authenticator : Authenticator) (commands : List Command) : PlainMechanism → Prop
  | .client _ => False
  | .server side => side.authenticator = authenticator ∧
      (side.state = .awaitingHello ∨ Admitted authenticator commands)

variable {authenticator : Authenticator} {mechanism : PlainMechanism} {seen : List Command}
  {env : Environment} {command : Command}

theorem Sound.onCommand (sound : mechanism.Sound authenticator seen) :
    (mechanism.onCommand env command).mechanism.Sound authenticator (seen ++ [command]) ∧
      ∀ props, (mechanism.onCommand env command).result = .ok (.complete props) →
        Admitted authenticator seen ∧ ∃ body, command = .unknown (ascii "INITIATE") body := by
  have later (admitted : Admitted authenticator seen) :
      Admitted authenticator (seen ++ [command]) := by
    obtain ⟨body, username, password, member, allowed⟩ := admitted
    exact ⟨body, username, password, mem_append_left _ member, allowed⟩
  cases mechanism with
  | client side => exact sound.elim
  | server side =>
    obtain ⟨rfl, admitted⟩ := sound
    have kept : (PlainMechanism.server side).Sound side.authenticator (seen ++ [command]) :=
      ⟨rfl, admitted.imp_right later⟩
    unfold PlainMechanism.onCommand
    split
    · exact ⟨kept, by simp⟩
    · dsimp only
      fun_cases side.onCommand env command
      next body waiting _ =>
        fun_cases side.onHello env body
        next => exact ⟨kept, nofun⟩
        next => exact ⟨kept, nofun⟩
        next username password decoded peer allowed =>
          have granted : side.authenticator peer = true := by simpa using allowed
          exact ⟨⟨rfl, .inr ⟨body, username, password, by simp, decoded, granted⟩⟩, nofun⟩
      next => exact ⟨kept, nofun⟩
      next body waiting _ =>
        have admitted := admitted.resolve_left (by simp [waiting])
        fun_cases side.onInitiate env body
        next => exact ⟨kept, nofun⟩
        next => exact ⟨⟨rfl, .inr (later admitted)⟩, fun _ _ => ⟨admitted, body, rfl⟩⟩
      next => exact ⟨kept, nofun⟩
      next => exact ⟨kept, nofun⟩

theorem Sound.foldl {state : PlainMechanism × Environment} (commands : List Command)
    (sound : state.1.Sound authenticator seen) :
    (commands.foldl receive state).1.Sound authenticator (seen ++ commands) := by
  induction commands generalizing state seen with
  | nil => simpa using sound
  | cons command commands ih =>
    have next : (commands.foldl receive (receive state command)).1.Sound authenticator
        (seen ++ [command] ++ commands) := ih sound.onCommand.1
    simpa using next

/-- The server completes on INITIATE, behind credentials which were allowed.  HELLO is read back,
no part of it is accepted, and what is accepted is what a client wrote exactly when nothing stands
behind the password. -/
theorem completes_authenticated (authenticator : Authenticator) (env : Environment)
    (ourProps props : PeerProperties) (commands : List Command) (command : Command)
    (body username password : Bytes) :
    (let started := (newServer authenticator).start env ourProps
      let state := commands.foldl receive (started.mechanism, started.env)
      (state.1.onCommand state.2 command).result = .ok (.complete props) →
        Admitted authenticator commands ∧ ∃ body, command = .unknown (ascii "INITIATE") body) ∧
    (Presentable username → Presentable password →
      ∃ body, encodeHello username password = .ok body ∧
        decodeHello body = .ok (username, password) ∧
        ∀ count < body.length, ∃ error, decodeHello (body.take count) = .error error) ∧
    (decodeHello body = .ok (username, password) →
      (encodeHello username password = .ok body ↔ body.length = announcedLength body)) := by
  refine ⟨?_, fun user pass => ?_, fun decoded => ?_⟩
  · intro started state completed
    have sound : state.1.Sound authenticator ([] ++ commands) :=
      Sound.foldl commands ⟨rfl, .inl rfl⟩
    exact sound.onCommand.2 props completed
  · have whole := decodeHello_hello user pass []
    rw [append_nil] at whole
    refine ⟨_, encodeHello_eq user pass, whole, fun count less => ?_⟩
    cases decoded : decodeHello ((hello username password).take count) with
    | error error => exact ⟨error, rfl⟩
    | ok credentials =>
      obtain ⟨name, word⟩ := credentials
      obtain ⟨named, worded, extra, cut⟩ := eq_hello_of_decodeHello decoded
      have full := decodeHello_hello named worded (extra ++ (hello username password).drop count)
      rw [← append_assoc, ← cut, take_append_drop, whole] at full
      obtain ⟨rfl, rfl⟩ : username = name ∧ password = word := by simpa using full
      have cut_length := congrArg length cut
      rw [length_take, length_append] at cut_length
      omega
  · obtain ⟨user, pass, extra, rfl⟩ := eq_hello_of_decodeHello decoded
    simp [encodeHello_eq user pass, announcedLength_hello user pass]

/-- A byte behind the password is not noticed. -/
theorem trailing_byte_accepted :
    decodeHello (hello (ascii "user") (ascii "secret") ++ [0]) =
      .ok (ascii "user", ascii "secret") := by
  decide +kernel

theorem hello_read_back :
    ∃ body, encodeHello (ascii "user") (ascii "secret") = .ok body ∧
      decodeHello body = .ok (ascii "user", ascii "secret") ∧
      ∀ count < body.length, ∃ error, decodeHello (body.take count) = .error error :=
  (completes_authenticated (fun _ => true) .zero .new .new [] (.error []) []
    (ascii "user") (ascii "secret")).2.1
      ⟨by decide +kernel, by decide⟩ ⟨by decide +kernel, by decide⟩

end PlainMechanism

end Omq
