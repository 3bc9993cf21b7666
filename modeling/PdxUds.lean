import PdxUds.Basic
import PdxUds.MessageState
import PdxUds.MessageCalls
import PdxUds.ChannelId
import PdxUds.ChannelTable
import PdxUds.Receive
import PdxUds.Reply
import PdxUds.Pushes
import PdxUds.Workers
import PdxUds.WorkerRuns
import PdxUds.WorkerReceive
import PdxUds.ChannelCounter
import PdxUds.ClientChurn
import PdxUds.InterestList
import PdxUds.MessageIds
import PdxUds.ServiceLoop
import PdxUds.OneWorker
import PdxUds.EndpointApi
