import Mathlib
import HardwareWallet.CommandLine.Run
import HardwareWallet.Proofs.Command.Listing
import HardwareWallet.Proofs.Command.Opening

namespace HardwareWallet

open Attempt
open Transport (Answers Closes Foreseen)

theorem EmulatedLink.closes : Closes EmulatedLink :=
  fun _ => nofun

theorem UsbLink.closes : Closes UsbLink := by
  intro l e he
  cases ho : l.opened <;> simp [Transport.disconnect, UsbLink.disconnect, ho] at he

theorem ScriptedLink.closes : Closes ScriptedLink := by
  intro l e he
  change (ScriptedLink.outcome l.disconnectFault l).1 = .error e at he
  cases hf : l.disconnectFault with
  | none =>
    rw [hf] at he
    cases he
  | some cause =>
    rw [hf] at he
    exact ⟨cause, (Except.error.inj he).symm⟩

theorem AnyLink.closes : Closes AnyLink := by
  intro l
  cases l with
  | emulated l => exact EmulatedLink.closes l
  | usb l => exact UsbLink.closes l
  | scripted l => exact ScriptedLink.closes l

def Report.IsError (r : Report) : Prop :=
  ∃ text code, r = [("error", .text text), ("code", .int code)]

theorem Report.isError_putError (text : String) (code : Int) : (Report.putError none text (.int code) []).IsError :=
  ⟨_, _, rfl⟩

theorem Report.ofError_isError {e : Error} (h : e.IsTold) (code : Int) :
    ∃ report, Report.ofError none code e [] = .ok report ∧ report.IsError := by
  obtain ⟨text, code', hr⟩ := exists_ofError h none code []
  exact ⟨_, hr, isError_putError text code'⟩

/-- Links that are over with an operation at some time, unless a reply may be waited for without end. -/
def Transport.Timely (τ : Type) [Transport τ] : Prop :=
  ∀ timeout : Timeout, Answers τ (fun _ => True) timeout.Ends (fun _ => True) timeout

namespace CommandLine

section Report

variable {τ : Type} [Transport τ] {P : τ → Prop} {timeout : Timeout}

def Command.Gives (s : Settings) (random : Bytes) (command : Command) (client : Client τ) (report : Report) : Prop :=
  ∃ ready, Client.opened client = (.ok (), ready) ∧ (command.perform s random ready).1 = .ok report

theorem Command.ends_perform (hτ : Answers τ P Error.IsTold Message.IsTold timeout) (s : Settings) (random : Bytes)
    (command : Command) :
    Ends (Client.Sound P Message.IsTold timeout) Error.IsTold (fun _ => True) (command.perform (τ := τ) s random) := by
  have hpin : Ends (Client.Sound P Message.IsTold timeout) Error.IsTold (fun _ => True)
      (s.requirePin : Attempt (Client τ) Value) := by
    unfold Settings.requirePin
    split
    · exact ends_fail (admits_told.plain rfl)
    · exact ends_pure trivial
  cases command with
  | enumerate => exact ends_pure trivial
  | getFeatures => exact Client.ends_getFeatures admits_told
  | getXpub path => exact Client.ends_getXpub hτ admits_told path _
  | unlock => exact ends_bind hpin fun pin _ => Client.ends_unlock hτ admits_told pin
  | setUp label strength => exact ends_bind hpin fun pin _ => Client.ends_setUp hτ admits_told pin label strength _ _
  | wipe => exact Client.ends_wipe hτ admits_told
  | cipherKey keyIndex subIndex label value purpose decrypt =>
    exact Client.ends_cipherKey hτ admits_told keyIndex subIndex label value purpose _ _

def Command.EndsIn (s : Settings) (random : Bytes) (command : Command) (client : Client τ) (report : Report) : Prop :=
  ∃ left, command.report s random client = (.ok report, left) ∧ left.session.connection ≠ .connected ∧
    (command.Gives s random client report ∨ report.IsError)

theorem Command.endsIn_of_refused (hclose : Closes τ) (s : Settings) (random : Bytes) (command : Command)
    {client left : Client τ} {e : Error} (ho : Client.opened client = (.error e, left)) (he : e.IsTold) :
    ∃ report, command.EndsIn s random client report := by
  obtain ⟨report, hr, hreport⟩ := Report.ofError_isError he connectionErrorCode
  refine ⟨report, left, ?_, ?_, .inr hreport⟩
  · rw [Command.report, ho]
    exact congrArg (·, left) hr
  · rcases Client.opened_ends hclose client with ⟨hok, -⟩ | ⟨-, -, hn⟩
    · cases (congrArg Prod.fst ho).symm.trans hok
    · rwa [ho] at hn

theorem Command.endsIn_of_ready (hclose : Closes τ) (s : Settings) (random : Bytes) (command : Command)
    {client ready : Client τ} (ho : Client.opened client = (.ok (), ready))
    (he : ∀ e, (command.perform s random ready).1 = .error e → e.IsTold) :
    ∃ report, command.EndsIn s random client report := by
  obtain ⟨result, done, hp⟩ : ∃ result done, command.perform s random ready = (result, done) := ⟨_, _, rfl⟩
  obtain ⟨closed, hc, hn, -⟩ := Client.close_ends hclose done
  rw [hp] at he
  cases result with
  | ok report =>
    have hr : command.report s random client = (.ok report, closed) := by
      simp only [Command.report, ho, hp, hc]
      rfl
    exact ⟨report, closed, hr, hn, .inl ⟨ready, ho, congrArg Prod.fst hp⟩⟩
  | error e =>
    obtain ⟨report, hr, hreport⟩ := Report.ofError_isError (he e rfl) unknownErrorCode
    have hreports : command.report s random client = (.ok report, closed) := by
      simp only [Command.report, ho, hp, hc, Except.tryCatch, hr]
    exact ⟨report, closed, hreports, hn, .inr hreport⟩

theorem Command.exists_endsIn (hclose : Closes τ) (hτ : Answers τ P Error.IsTold Message.IsTold timeout) (s : Settings)
    (random : Bytes) (command : Command) {client : Client τ} (hc : client.Sound P Message.IsTold timeout) :
    ∃ report, command.EndsIn s random client report := by
  have ho := Client.ends_opened hτ admits_told client hc
  obtain ⟨r, left, hopened⟩ : ∃ r left, Client.opened client = (r, left) := ⟨_, _, rfl⟩
  rw [hopened] at ho
  cases r with
  | error e => exact endsIn_of_refused hclose s random command hopened ho.2
  | ok =>
    exact endsIn_of_ready hclose s random command hopened fun e =>
      (command.ends_perform hτ s random left ho.1).error

end Report

namespace Invocation

def client? (bus : Bus) (i : Invocation) : Option (Client AnyLink) := do
  let path ← i.settings.path?
  let link ← (AnyLink.find bus path).toOption
  return Client.create path i.settings.chain link i.settings.timeout (.int 64) .standard

theorem execute_ends (bus : Bus) (random : Bytes) (i : Invocation) (hi : i.command ≠ .enumerate) :
    ∃ report : Report, i.execute bus random = .ok (.object report) ∧
      (i.client? bus = none ∧ report.IsError ∨
        ∃ client, i.client? bus = some client ∧ i.command.EndsIn i.settings random client report) := by
  obtain ⟨s, command⟩ := i
  cases hp : s.path? with
  | none =>
    have hn : client? bus ⟨s, command⟩ = none := by rw [client?, hp]; rfl
    have he : ∃ text, execute bus random ⟨s, command⟩ = .ok (.object (Report.putError none text (.int (-1)) [])) := by
      cases command
      case enumerate => exact absurd rfl hi
      all_goals exact ⟨_, by rw [execute, hp]⟩
    obtain ⟨text, he⟩ := he
    exact ⟨_, he, .inl ⟨hn, Report.isError_putError text (-1)⟩⟩
  | some path =>
    have he : execute bus random ⟨s, command⟩ = (command.reportAt bus path s random).map .object := by
      cases command
      case enumerate => exact absurd rfl hi
      all_goals rw [execute, hp]
    rcases AnyLink.find_cases bus path with ⟨link, hl, hlink⟩ | ⟨e, hl, hplain⟩
    · obtain ⟨report, hends⟩ := Command.exists_endsIn AnyLink.closes (AnyLink.answers_told s.timeout) s random command
        (Client.sound_create hlink path s.chain (.int 64) .standard)
      have hr : command.reportAt bus path s random = .ok report := by
        obtain ⟨left, hr, -⟩ := hends
        rw [Command.reportAt, hl]
        exact congrArg Prod.fst hr
      refine ⟨report, by rw [he, hr]; rfl, .inr ⟨_, ?_, hends⟩⟩
      simp [client?, hp, hl, Except.toOption]
    · obtain ⟨report, hr, hreport⟩ := Report.ofError_isError (Error.isTold_of_isPlain hplain) connectionErrorCode
      refine ⟨report, ?_, .inl ⟨by simp [client?, hp, hl, Except.toOption], hreport⟩⟩
      rw [he, Command.reportAt, hl]
      exact congrArg (Except.map Value.object) hr

theorem withPin_cases (pin : Option String) (i : Invocation) :
    i.settings.asksPin = true ∧ pin = none ∧ i.withPin pin = .error .inputEnded ∨
      ∃ i', i.withPin pin = .ok i' ∧ i'.command = i.command := by
  unfold withPin
  cases ha : i.settings.asksPin with
  | false => exact .inr ⟨i, rfl, rfl⟩
  | true =>
    cases pin with
    | none => exact .inl ⟨rfl, rfl, rfl⟩
    | some pin => exact .inr ⟨_, rfl, rfl⟩

end Invocation

theorem run_of_parse {bus : Bus} {arguments words : List String} {input : String} {invocation : Invocation}
    (hw : allWords arguments input = .ok words) (hp : Invocation.parse words = .ok invocation) (pin : Option String)
    (random : Bytes) : run bus arguments input pin random = (do
      return ⟨printed (← (← invocation.withPin pin).execute bus random), none⟩) := by
  rw [run, hw, ok_bind, hp]

theorem run_cases {arguments words : List String} {input : String} {invocation : Invocation}
    (hw : allWords arguments input = .ok words) (hp : Invocation.parse words = .ok invocation)
    (hi : invocation.command ≠ .enumerate) (bus : Bus) (pin : Option String) (random : Bytes) :
    invocation.settings.asksPin = true ∧ pin = none ∧ run bus arguments input pin random = .error .inputEnded ∨
      ∃ (i : Invocation) (report : Report), invocation.withPin pin = .ok i ∧
        run bus arguments input pin random = .ok ⟨printed (.object report), none⟩ ∧
        (i.client? bus = none ∧ report.IsError ∨
          ∃ client, i.client? bus = some client ∧ i.command.EndsIn i.settings random client report) := by
  rw [run_of_parse hw hp]
  rcases invocation.withPin_cases pin with ⟨ha, rfl, he⟩ | ⟨i, he, hc⟩
  · rw [he]
    exact .inl ⟨ha, rfl, rfl⟩
  · obtain ⟨report, hr, hends⟩ := i.execute_ends bus random (hc ▸ hi)
    rw [he]
    refine .inr ⟨i, report, rfl, ?_, hends⟩
    rw [ok_bind, hr]
    rfl

theorem opened_cases {τ : Type} [Transport τ] (hclose : Closes τ) (htime : Transport.Timely τ) (path : Value)
    (chain : Chain) (link : τ) (timeout : Timeout) (capacity : Value) (policy : PinPolicy) :
    let there := Transport.present link
    let opening := Transport.connect there.2
    let asked := Transport.exchange .initialise timeout opening.2
    let result := Client.opened (Client.create path chain link timeout capacity policy)
    timeout.isEndless = true ∧ result.1 = .error .endless ∨
      result.1 = .ok () ∧ result.2.session.connection = .connected ∧ result.2.features.isSome = true ∨
      (∃ e, result.1 = .error e ∧ e ≠ .endless) ∧ result.2.session.connection ≠ .connected ∧
        (there.1 = .ok true → opening.1 = .ok () → result.2.session.link = (Transport.disconnect asked.2).2) := by
  intro there opening asked result
  have hsound : (Client.create path chain link timeout capacity policy).Sound (fun _ => True) (fun _ => True) timeout :=
    Client.sound_create trivial path chain capacity policy
  have hends := Client.ends_opened (htime timeout) (admits_ends timeout) _ hsound
  rcases Client.opened_create hclose path chain link timeout capacity policy with hok | ⟨⟨e, he⟩, hn, hl⟩
  · exact .inr (.inl hok)
  · by_cases hnever : e = .endless
    · subst hnever
      exact .inl ⟨hends.error he rfl, he⟩
    · exact .inr (.inr ⟨⟨e, he, hnever⟩, hn, hl⟩)

/-- A client that is made ready is connected and knows the features of its device. If it cannot be made ready, the
    session is not connected, and the link has been closed if it was opened. After a command the session is not connected
    either, and what is reported is the result of the command or an error, also if there is no device to ask. A run has
    nothing to report only if its input ends where the PIN is to be read. -/
theorem no_connection_left {τ : Type} [Transport τ] (hclose : Closes τ) (htime : Transport.Timely τ) :
    (∀ path chain (link : τ) timeout capacity policy,
      let there := Transport.present link
      let opening := Transport.connect there.2
      let asked := Transport.exchange .initialise timeout opening.2
      let result := Client.opened (Client.create path chain link timeout capacity policy)
      timeout.isEndless = true ∧ result.1 = .error .endless ∨
        result.1 = .ok () ∧ result.2.session.connection = .connected ∧ result.2.features.isSome = true ∨
        (∃ e, result.1 = .error e ∧ e ≠ .endless) ∧ result.2.session.connection ≠ .connected ∧
          (there.1 = .ok true → opening.1 = .ok () → result.2.session.link = (Transport.disconnect asked.2).2)) ∧
      (∀ (P : τ → Prop) timeout, Answers τ P Error.IsTold Message.IsTold timeout →
        ∀ s random (command : Command) path chain link capacity policy, P link →
          ∃ report, command.EndsIn s random (Client.create path chain link timeout capacity policy) report) ∧
      ∀ bus arguments input words invocation pin random, allWords arguments input = .ok words →
        Invocation.parse words = .ok invocation → invocation.command ≠ .enumerate →
        invocation.settings.asksPin = true ∧ pin = none ∧ run bus arguments input pin random = .error .inputEnded ∨
          ∃ (i : Invocation) (report : Report), invocation.withPin pin = .ok i ∧
            run bus arguments input pin random = .ok ⟨printed (.object report), none⟩ ∧
            (i.client? bus = none ∧ report.IsError ∨
              ∃ client, i.client? bus = some client ∧ i.command.EndsIn i.settings random client report) := by
  refine ⟨opened_cases hclose htime, fun P timeout hτ s random command path chain link capacity policy hl => ?_, ?_⟩
  · exact Command.exists_endsIn hclose hτ s random command (Client.sound_create hl path chain capacity policy)
  · intro bus arguments input words invocation pin random hw hp hi
    exact run_cases hw hp hi bus pin random

def factoryClient (timeout : Timeout) : Client EmulatedLink :=
  Client.create (.text "emulator:initialised") .main { device := .ofProfile .initialised } timeout (.int 64) .standard

def unlocking : Invocation :=
  ⟨{ emulated := some (.proper .initialised), asksPin := true }, .unlock⟩

theorem timely_emulated : Transport.Timely EmulatedLink :=
  EmulatedLink.answers_ends

theorem not_isError_of_version {report : Report} (h : report.any (fun field => field.1 = "version") = true) :
    ¬ report.IsError := by
  rintro ⟨text, code, rfl⟩
  simp at h

theorem factoryClient_closed :
    Closes EmulatedLink ∧ Transport.Timely EmulatedLink ∧
      ((∃ e, (Client.opened (factoryClient (.seconds (.whole (-1))))).1 = .error e ∧ e ≠ .endless) ∧
        (Client.opened (factoryClient (.seconds (.whole (-1))))).2.session.connection ≠ .connected ∧
        (Client.opened (factoryClient (.seconds (.whole (-1))))).2.session.link.opened = false) ∧
      (∃ report left, Command.getFeatures.report {} [] (factoryClient .standard) = (.ok report, left) ∧
        left.session.connection ≠ .connected ∧ Command.getFeatures.Gives {} [] (factoryClient .standard) report) ∧
      Invocation.parse ["--emulator", "initialised", "--stdinpin", "unlock"] = .ok unlocking ∧
      ∃ (i : Invocation) (report : Report), unlocking.withPin (some "1234") = .ok i ∧
        run {} ["--emulator", "initialised", "--stdinpin", "unlock"] "" (some "1234") [] =
          .ok ⟨printed (.object report), none⟩ ∧
        ∃ client, i.client? {} = some client ∧ i.command.EndsIn i.settings [] client report := by
  obtain ⟨made, worked, ran⟩ := no_connection_left EmulatedLink.closes timely_emulated
  refine ⟨EmulatedLink.closes, timely_emulated, ?_, ?_, rfl, ?_⟩
  · have hf : (Client.opened (factoryClient (.seconds (.whole (-1))))).1.toBool = false := by decide +kernel
    rcases made (.text "emulator:initialised") .main { device := .ofProfile .initialised } (.seconds (.whole (-1)))
      (.int 64) .standard with ⟨ht, -⟩ | ⟨ho, -⟩ | ⟨he, hn, hl⟩
    · cases ht
    · rw [show (Client.opened (factoryClient _)).1 = .ok () from ho] at hf
      cases hf
    · exact ⟨he, hn, congrArg EmulatedLink.opened (hl rfl rfl)⟩
  · have hv : (Command.getFeatures.report {} [] (factoryClient .standard)).1.toOption.any
        (fun report => report.any fun field => field.1 = "version") = true := by decide +kernel
    obtain ⟨report, left, hr, hn, hgives⟩ := worked EmulatedLink.Awake .standard (EmulatedLink.answers_told _) {} []
      .getFeatures (.text "emulator:initialised") .main { device := .ofProfile .initialised } (.int 64) .standard
      ⟨rfl, nofun⟩
    have hreport : Command.getFeatures.report {} [] (factoryClient .standard) = (.ok report, left) := hr
    rw [hreport] at hv
    exact ⟨report, left, hreport, hn, hgives.resolve_right (not_isError_of_version hv)⟩
  · rcases ran {} ["--emulator", "initialised", "--stdinpin", "unlock"] "" _ unlocking (some "1234") [] rfl rfl nofun with
      ⟨-, hp, -⟩ | ⟨i, report, hi, hr, hends⟩
    · cases hp
    · refine ⟨i, report, hi, hr, hends.resolve_left ?_⟩
      rintro ⟨hc, -⟩
      obtain rfl := Except.ok.inj hi
      have hf : (Invocation.client? {} { unlocking with settings.pin := .text "1234" }).isSome = true := by decide +kernel
      rw [show Invocation.client? {} { unlocking with settings.pin := .text "1234" } = none from hc] at hf
      cases hf

/-- Nothing is printed if the input ends where the PIN is to be read, or inside of quotes. For a device that does not
    reply there is no end to a wait of a time that is no number. -/
theorem unread_input_unreported :
    Invocation.parse ["--emulator", "initialised", "--stdinpin", "unlock"] = .ok unlocking ∧
      run {} ["--emulator", "initialised", "--stdinpin", "unlock"] "" none = .error .inputEnded ∧
      Invocation.parse ["--emulator", "initialised", "--stdin", "getfeatures"] =
        .ok ⟨{ emulated := some (.proper .initialised) }, .getFeatures⟩ ∧
      run {} ["--emulator", "initialised", "--stdin", "getfeatures"] "'\n" none = .error (.unfinishedWord .quote) ∧
      (Client.opened { factoryClient (.seconds (.rounded .undefined)) with session.link.device.stalled := true }).1 =
        .error .endless :=
  ⟨rfl, rfl, rfl, by cbv, rfl⟩

end CommandLine

end HardwareWallet
