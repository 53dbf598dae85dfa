import RealSocial.Proof.SyncCompleteness
import RealSocial.Proof.SyncCrash
import RealSocial.Proof.SyncSession
import RealSocial.Proof.SpaceTimeline
import RealSocial.Proof.LostUpdate
import RealSocial.Proof.ContactCache
import RealSocial.Proof.Isolation
import RealSocial.Proof.KeyValueMaps
import RealSocial.Proof.PictureFiles
import RealSocial.Proof.SpaceStatus
import RealSocial.Proof.SpaceSend
import RealSocial.Proof.ImageDownload
import RealSocial.Proof.CarouselSteps
import RealSocial.Proof.Carousel
import RealSocial.Proof.CommentTarget
import RealSocial.Proof.UnreadFlag
import RealSocial.Proof.ReceiverSelection
import RealSocial.Proof.Audience
import RealSocial.Proof.PictureStatus
import RealSocial.Proof.TerminalStatus
import RealSocial.Proof.MockPath
import RealSocial.Proof.LoginAgreement
import RealSocial.Proof.WXLoginEnds
import RealSocial.Proof.ReceiverFreshness
import RealSocial.Proof.FaceStream
import RealSocial.Proof.FaceCapture
import RealSocial.Proof.CarouselRest
import RealSocial.Proof.CarouselCycle
import RealSocial.Proof.SpaceMerge
import RealSocial.Library.CappedView
import RealSocial.Proof.AvatarStack
import RealSocial.Features.AddFriends
import RealSocial.Proof.AddFriendOutcome
import RealSocial.Proof.AddFriendPictures
import RealSocial.Features.GroupSpace
import RealSocial.Proof.GroupAuthors
import RealSocial.Features.PictureList
import RealSocial.Proof.PictureRecency
import RealSocial.Proof.LogoutLeak
import RealSocial.Library.Wire
import RealSocial.Proof.AddStarDecode
import RealSocial.System.SwipeRuns
import RealSocial.Proof.SwipePop
import RealSocial.Library.Words
import RealSocial.Protobuf.CodedOutputStream
import RealSocial.Protobuf.CodedInputStream
import RealSocial.Library.SortedMap
import RealSocial.Proof.MessageFields
import RealSocial.Proof.MessageMerge
import RealSocial.Proof.MessageLength
import RealSocial.Proof.MessageRoundTrip
import RealSocial.Proof.PKG
import RealSocial.Library.Machine
import RealSocial.Library.Stream
import RealSocial.Proof.DeliverOnMainThread
import RealSocial.Proof.Zip
import RealSocial.Proof.ZipAll
import RealSocial.Features.AvatarImage
import RealSocial.Proof.AvatarShown
import RealSocial.Proof.UploadHosts
import RealSocial.Proof.HandlerFate
import RealSocial.Proof.OneDownload
import RealSocial.Proof.AddStarMessage
