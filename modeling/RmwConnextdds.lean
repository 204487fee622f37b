import RmwConnextdds.WaitSet.Basic
import RmwConnextdds.WaitSet.Attach
import RmwConnextdds.WaitSet.Wait
import RmwConnextdds.Threads.Step
import RmwConnextdds.Threads.Destruction
import RmwConnextdds.Threads.Ownership
import RmwConnextdds.RequestReply
import RmwConnextdds.Subscriber.Take
import RmwConnextdds.Endpoint.Create
import RmwConnextdds.Endpoint.Rollback
import RmwConnextdds.Endpoint.Fallback
import RmwConnextdds.Endpoint.ReplyFilter
import RmwConnextdds.Endpoint.Names
import RmwConnextdds.RequestReply.Protocol
import RmwConnextdds.Qos
import RmwConnextdds.Threads.Solo
import RmwConnextdds.Threads.Writers
import RmwConnextdds.Threads.Sequential
import RmwConnextdds.Threads.Progress
