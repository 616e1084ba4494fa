import Storyworld.Narration.Template

/-!
The bundled prompts.
-/

namespace Storyworld.Narration

def englishPrompt : Template := [
    .text ("You are a game master for an interactive narrative game. Your task is to " ++
      "describe the outcome of the player's action.\n\n" ++
      "The player is currently in this situation:\nSituation: "),
    .value "situation_label",
    .text "\nScene: ",
    .value "scene_description",
    .text "\n\nThe player took this action:\nAction: ",
    .value "action_taken",
    .text "\n\nThe game engine determined the following concrete results from this action:\n",
    .each "procedural_logs" "- Nothing notable changed.\n",
    .text ("\nBased on these results, write a compelling, 2-3 sentence narrative describing " ++
      "what happens. The tone should be consistent with the scene. Give clear hints " ++
      "about what the player can interact with next by subtly weaving in items from " ++
      "the 'Known Interaction Targets' list.\n\nKnown Interaction Targets:\n"),
    .each "known_targets" "- (none yet)\n",
    .text "\nGenerate the action-result narrative now. Reply with the narrative only.\n"]

def chinesePrompt : Template := [
    .text ("你是一个互动叙事游戏的主持人。你的任务是描述玩家行动的结果。\n\n" ++
      "玩家目前处于这种情况：\n情境："),
    .value "situation_label",
    .text "\n场景：",
    .value "scene_description",
    .text "\n\n玩家采取了此行动：\n行动：",
    .value "action_taken",
    .text "\n\n游戏引擎确定了此行动的具体结果如下：\n",
    .each "procedural_logs" "- 没有明显变化。\n",
    .text ("\n根据这些结果，写一段 2-3 " ++
      "句话的叙述，描述发生了什么。基调应与场景一致。请巧妙地融入“已知互动目标”列表中" ++
      "的项目，为玩家下一步可以与什么互动提供提示。\n\n已知互动目标：\n"),
    .each "known_targets" "- （暂无）\n",
    .text "\n现在生成行动结果叙述。只回复叙述本身。\n"]

def bundledPrompt : Language → Template
  | .en => englishPrompt
  | .zh => chinesePrompt

end Storyworld.Narration
