import Storyworld.Scenario.Basic

/-!
The bundled scenario of a polluted river.
-/

namespace Storyworld.EcoPollution

def trigger (actionId : String) : Trigger := ⟨actionId, none, none, none⟩

def fixed (trigger : Trigger) (effects : List Effect) : Rule := ⟨trigger, effects, none⟩

def chanced (trigger : Trigger) (effects failure : List Effect) : Rule :=
  ⟨trigger, effects, some failure⟩

def investigateArea : Situation where
  label := "Field Investigation"
  description := some ("A slow brown river runs past reed beds and an upstream factory. " ++
          "Fishermen mend nets on the bank.")
  allowedActions := ["observe", "investigate", "sample", "talk", "announce", "declare"]
  rules := [
      fixed (trigger "observe") [
        ⟨[.action (.add "counters.clues,1"), .cap (.int 2)]⟩,
        ⟨[.action (.log ("You record the water color, smell, and flow rate, forming a basic " ++
          "survey note."))]⟩],
      fixed { trigger "investigate" with
          targetPattern := some "(outlet|oil|dead fish)" } [
        ⟨[.action (.add "counters.clues,1")]⟩,
        ⟨[.action (.addKnownTarget "outlet")]⟩,
        ⟨[.action (.log ("You have locked on to key signs of pollution and can now deal with the" ++
          " discharge outlet."))]⟩],
      fixed { trigger "investigate" with
          targetPattern := some "upstream factory" } [
        ⟨[.action (.add "counters.clues,1")]⟩,
        ⟨[.action (.set "next_situation,interview_industry"), .guard "counters.clues >= 2"]⟩,
        ⟨[.action (.log ("The factory has suspicious emissions at night; it would be better if " ++
          "you could get testimony."))]⟩],
      fixed (trigger "sample") [
        ⟨[.action (.add "counters.samples,1")]⟩,
        ⟨[.action (.track "eco.pollution,1")]⟩,
        ⟨[.action (.set "next_situation,technical_ops"), .guard "counters.samples >= 2"]⟩,
        ⟨[.action (.log ("Sampling stirred up the sediment, causing a short-term rise in " ++
          "pollution; the data will support subsequent treatment."))]⟩],
      fixed { trigger "talk" with
          targetPattern := some "(fisherman|resident|guard)" } [
        ⟨[.action (.add "counters.clues,1")]⟩,
        ⟨[.action (.log ("The locals complain about the pollution, but they don't seem to want " ++
          "to reveal more."))]⟩],
      fixed (trigger "announce") [
        ⟨[.action (.track "eco.media,-1")]⟩,
        ⟨[.action (.track "eco.media,2"), .guard "tracks['eco.pollution'].value >= 7"]⟩,
        ⟨[.action (.log ("Public opinion cooled down for now, unless the pollution figures were " ++
          "already alarming."))]⟩],
      fixed { trigger "declare" with
          textPattern := some "(Engineering)" } [
        ⟨[.action (.set "route,policy.engineering")]⟩,
        ⟨[.action (.log ("[Route] Engineering First: Prioritize construction and technical " ++
          "governance."))]⟩],
      fixed { trigger "declare" with
          textPattern := some "(Enforcement)" } [
        ⟨[.action (.set "route,policy.enforcement")]⟩,
        ⟨[.action (.log "[Route] Mandatory Enforcement: Prioritize forensics/shutdown.")]⟩],
      fixed { trigger "declare" with
          textPattern := some "(PR)" } [
        ⟨[.action (.set "route,policy.pr")]⟩,
        ⟨[.action (.log ("[Route] Public Relations Cover-up: Prioritize stabilizing public " ++
          "opinion."))]⟩]]
  enterIf := none
  ending := false

def interviewIndustry : Situation where
  label := "Interview Factory"
  description := some "The factory gate is guarded. A manager watches from the office window."
  allowedActions := ["talk", "investigate", "negotiate", "sample", "announce"]
  rules := [
      fixed { trigger "talk" with
          targetPattern := some "(manager|guard|foreman)" } [
        ⟨[.action (.set "counters.testimony,true")]⟩,
        ⟨[.action (.log "You have obtained written or recorded testimony.")]⟩],
      chanced { trigger "negotiate" with
          targetPattern := some "(shutdown|rectify|seal|stop production)"
          require := some "counters.testimony == true" } [
        ⟨[.action (.set "counters.shutdown_ok,true")]⟩,
        ⟨[.action (.track "eco.pollution,-2")]⟩,
        ⟨[.action (.track "eco.governance,1")]⟩,
        ⟨[.action (.log ("The other party signed a commitment to stop production for " ++
          "rectification, and the pollution was alleviated."))]⟩] [
        ⟨[.action (.track "eco.media,1")]⟩,
        ⟨[.action (.log "The talks broke down and word of the standoff reached the press.")]⟩],
      fixed (trigger "investigate") [
        ⟨[.action (.set "next_situation,technical_ops"), .guard ("counters.samples >= 2 && " ++
          "counters.shutdown_ok == false")]⟩,
        ⟨[.action (.log "Further investigation yielded no new clues.")]⟩]]
  enterIf := none
  ending := false

def technicalOps : Situation where
  label := "Technical Governance"
  description := some "Contractors wait for instructions beside the treatment site."
  allowedActions := ["build", "clean", "announce", "investigate"]
  rules := [
      fixed (trigger "build") [
        ⟨[.action (.track "eco.governance,2")]⟩,
        ⟨[.action (.track "eco.media,1")]⟩,
        ⟨[.action (.set "next_situation,wrap_up"), .guard ("tracks['eco.governance'].value >= 8 " ++
          "&& tracks['eco.pollution'].value <= 3 && tracks['eco.media'].value <= 5")]⟩,
        ⟨[.action (.log ("The project is progressing significantly, but the construction has " ++
          "attracted attention."))]⟩],
      fixed (trigger "clean") [
        ⟨[.action (.track "eco.pollution,-1")]⟩,
        ⟨[.action (.track "eco.governance,1")]⟩,
        ⟨[.action (.log ("Decontamination operations have reduced pollution and steadily " ++
          "advanced governance."))]⟩]]
  enterIf := none
  ending := false

def wrapUp : Situation where
  label := "Wrap Up"
  description := some "The river runs clearer. Monitoring stations blink along the bank."
  allowedActions := ["reflect", "celebrate"]
  rules := [
      fixed (trigger "reflect") [
        ⟨[.action (.log ("You have sorted out the entire evidence chain and governance data and " ++
          "entered a long-term monitoring period."))]⟩],
      fixed (trigger "celebrate") [
        ⟨[.action (.log ("The crisis has been resolved. You celebrate with your team and revisit" ++
          " the local residents, who express their gratitude for the environmental " ++
          "improvements."))]⟩]]
  enterIf := none
  ending := true

def scenario : Scenario where
  version := 1
  id := "eco_pollution"
  title := "Environmental Crisis"
  description := "An interactive narrative game where the player assumes the role of an " ++
          "environmental protection officer tasked with resolving a mysterious pollution " ++
          "incident in a river."
  language := .en
  theme := some "theme-forest"
  actions := [
    ("observe", ⟨"Observe", "Eye", some "Look around and take notes."⟩),
    ("investigate", ⟨"Investigate", "Search", some "Examine something specific."⟩),
    ("sample", ⟨"Sample", "Beaker", some "Take a water or sediment sample."⟩),
    ("talk", ⟨"Talk", "MessageSquare", some "Talk to someone."⟩),
    ("announce", ⟨"Announce", "Megaphone", some "Make a public statement."⟩),
    ("declare", ⟨"Declare Policy", "Flag", some "Commit to a policy route."⟩),
    ("negotiate", ⟨"Negotiate", "Handshake", some "Press for an agreement."⟩),
    ("build", ⟨"Build", "Hammer", some "Push treatment works forward."⟩),
    ("clean", ⟨"Clean", "Sparkles", some "Run decontamination operations."⟩),
    ("reflect", ⟨"Reflect", "BookOpen", some "Review the whole case."⟩),
    ("celebrate", ⟨"Celebrate", "PartyPopper", some "Celebrate with the team."⟩)]
  opening := ⟨"investigate_area",
    [("clues", .number (.int 0)), ("samples", .number (.int 0)), ("testimony", .flag false),
      ("shutdown_ok", .flag false)],
    []⟩
  tracks := [
    ("eco.pollution", ⟨"Pollution", 2, 10⟩),
    ("eco.governance", ⟨"Governance", 0, 8⟩),
    ("eco.media", ⟨"Media Attention", 3, 10⟩)]
  situations := [
    ("investigate_area", investigateArea),
    ("interview_industry", interviewIndustry),
    ("technical_ops", technicalOps),
    ("wrap_up", wrapUp)]
  hints := some ⟨[
      ("clues", "FileText"),
      ("samples", "Beaker"),
      ("testimony", "Handshake"),
      ("shutdown_ok", "CheckCircle2"),
      ("default", "Star")], [
      ("eco.pollution", ⟨"AlertTriangle", "text-rose-500", some "[&>div]:bg-rose-500"⟩),
      ("eco.governance", ⟨"Shield", "text-emerald-500", some "[&>div]:bg-emerald-500"⟩),
      ("eco.media", ⟨"Megaphone", "text-sky-500", some "[&>div]:bg-sky-500"⟩)]⟩

end Storyworld.EcoPollution
