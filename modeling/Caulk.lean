import Caulk.Foundation.Timeline
import Caulk.Foundation.Separator
import Caulk.Foundation.Storage
import Caulk.Foundation.ValidatedCache
import Caulk.Foundation.Observation
import Caulk.Foundation.LexicalPath
import Caulk.Foundation.FileTree
import Caulk.Foundation.Runs
import Caulk.Foundation.MaximalRuns
import Caulk.Foundation.Text
import Caulk.Foundation.Tokens
import Caulk.Foundation.Paragraphs
import Caulk.Core
import Caulk.PromptRegistry
import Caulk.PromptRegistry.Confinement
import Caulk.PromptRegistry.Calls
import Caulk.PromptRegistry.Interleaving
import Caulk.PromptRegistry.CachedPairs
import Caulk.PromptRegistry.StampedWrites
import Caulk.PromptRegistry.ClearCache
import Caulk.PromptRegistry.Interchange
import Caulk.PromptRegistry.SequentialCalls
import Caulk.PromptRegistry.Progress
import Caulk.PromptRegistry.Settling
import Caulk.ContextBuilder
import Caulk.ContextBuilder.FileSnippet
import Caulk.ContextBuilder.SnippetRows
import Caulk.ContextBuilder.CursorReference
import Caulk.ContextBuilder.CursorEvent
import Caulk.ContextBuilder.HeaderReference
import Caulk.ContextBuilder.ShownWindow
import Caulk.ContextBuilder.ParagraphHistory
import Caulk.ContextBuilder.HistorySummary
import Caulk.ContextBuilder.BlankContexts
import Caulk.Policy
import Caulk.RigAdapter
import Caulk.RigAdapter.Rig
import Caulk.Runtime
import Caulk.Runtime.AllowListPlans
import Caulk.Runtime.Conversation
import Caulk.Runtime.HeardPrompts
import Caulk.Runtime.IgnoredPrompts
import Caulk.GraphFlowAdapter
import Caulk.GraphFlowAdapter.SharedContext
import Caulk.GraphFlowAdapter.Transitions
import Caulk.GraphFlowAdapter.Walks
import Caulk.GraphFlowAdapter.FailingContexts
import Caulk.Persistence
import Caulk.Persistence.Families
import Caulk.Persistence.PoisonedLocks
import Caulk.QaRunner
